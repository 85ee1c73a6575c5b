import Vectis.Core.Commitments
import Vectis.Core.Crypto
import Vectis.Core.Envelope
import Vectis.Ops.KeyMaterial

/-!
# Creating and verifying commitments

The single operations of `ops/commitments.rs`. The bytes of an opening are what the generator gives.

- `verify_created`: what was created verifies;
- `verifyRequest_valid`: what verifies was computed from the opening and the plaintext of the request;
- `commitments_verify_and_bind`: both, under every accepted profile, with an ideal tag.
-/

namespace Vectis.Ops.Commitments

open Vectis.Core Vectis.Core.Validation Vectis.Core.Profiles Vectis.Core.Mac Vectis.Core.Canonical
  Vectis.Core.Commitments Vectis.Core.Crypto Keys

/-! ## Inputs -/

structure CommitCreateInput where
  refId : String
  profile : String
  plaintext : String
  deriving DecidableEq, Repr

structure CommitVerifyInput where
  refId : String
  kid : String
  profile : String
  plaintext : String
  opening : String
  commitment : String
  deriving DecidableEq, Repr

structure CommitCreateOutput where
  refId : String
  kid : String
  profile : String
  algorithm : String
  commitment : String
  opening : String
  deriving DecidableEq, Repr

structure CommitVerifyOutput where
  refId : String
  kid : String
  profile : String
  valid : Bool
  deriving DecidableEq, Repr

/-- `validation::validate_ref`. -/
def validateRef (value : String) : Res Unit := validateBoundedTextField "ref" value internalRefMaxChars

def validateCreateInput (input : CommitCreateInput) : Res CommitCreateInput := do
  validateRef input.refId
  validateAadConfigName "profile" input.profile
  validateTextField "plaintext" input.plaintext
  .ok input

def validateVerifyInput (input : CommitVerifyInput) : Res CommitVerifyInput := do
  validateRef input.refId
  (validateKeyId input.kid).mapError fun err => .invalidInput ("kid is invalid: " ++ err.toText)
  validateAadConfigName "profile" input.profile
  validateTextField "plaintext" input.plaintext
  validateTextField "opening" input.opening
  validateHexField "commitment" input.commitment
  .ok input

structure PreparedCommitCreate where
  kid : String
  profile : CommitmentProfile
  input : CommitCreateInput

structure PreparedCommitVerify where
  kid : String
  profile : CommitmentProfile
  input : CommitVerifyInput

def validatePlaintextLen (profile : CommitmentProfile) (plaintext : String) : Res Unit :=
  if plaintext.length > profile.maxPlaintextLen.toNat then
    .error (.invalidInput "plaintext exceeds commitment profile maximum length")
  else .ok ()

def prepareCreate (state : LoadedKeys) (kid : String) (profile : CommitmentProfile) (input : CommitCreateInput) :
    Res PreparedCommitCreate := do
  prepareProfileUse state kid profile.kid "commit" .newUse
  validatePlaintextLen profile input.plaintext
  .ok ⟨kid, profile, input⟩

def prepareVerify (state : LoadedKeys) (profile : CommitmentProfile) (input : CommitVerifyInput) :
    Res PreparedCommitVerify := do
  prepareProfileUse state input.kid profile.kid "commit" .verify
  validatePlaintextLen profile input.plaintext
  validateOpening profile input.opening
  .ok ⟨input.kid, profile, input⟩

/-! ## Operations -/

section Operations

variable (lib : TagLib) (serde : SerdeJson)

/-- `random` is what `random_bytes` gives for the length of an opening. -/
def generateOpening (random : Res (List UInt8)) : Res String := do
  let bytes ← random
  .ok (encodeOpening bytes)

def create (prepared : PreparedCommitCreate) (random : Res (List UInt8)) : Res CommitCreateOutput := do
  let opening ← generateOpening random
  let commitment ← computeCommitment lib serde prepared.profile opening prepared.input.plaintext
  .ok ⟨prepared.input.refId, prepared.kid, prepared.input.profile, prepared.profile.publicAlgorithm,
    Hex.encode commitment, opening⟩

def verify (prepared : PreparedCommitVerify) : Res CommitVerifyOutput := do
  let expected ← computeCommitment lib serde prepared.profile prepared.input.opening prepared.input.plaintext
  let actual ← hexDecode prepared.input.commitment
  .ok ⟨prepared.input.refId, prepared.kid, prepared.input.profile, constantTimeEq expected actual⟩

/-- A request to verify under a profile. -/
def verifyRequest (state : LoadedKeys) (profile : CommitmentProfile) (input : CommitVerifyInput) :
    Res CommitVerifyOutput := do
  let input ← validateVerifyInput input
  let prepared ← prepareVerify state profile input
  verify lib serde prepared

end Operations

/-! ## What was created verifies -/

theorem sextet_text : ∀ n : Fin 64, isWhitespace (Base64.sextet n) = false ∧
    isControl (Base64.sextet n) = false := by decide

theorem validateTextField_encodeOpening {field : String} {bytes : List UInt8} (h : bytes ≠ []) :
    validateTextField field (encodeOpening bytes) = .ok () := by
  have hchars : ∀ c ∈ (encodeOpening bytes).toList, isWhitespace c = false ∧ isControl c = false := by
    intro c hc
    rw [encodeOpening, String.toList_ofList] at hc
    obtain ⟨n, rfl⟩ := Base64.encode_chars bytes c hc
    exact sextet_text n
  have hne : Base64.encode bytes ≠ [] := by
    intro hnil
    have hlength := Base64.length_encode bytes
    have := List.length_pos_iff.mpr h
    rw [hnil, List.length_nil] at hlength
    omega
  refine validateTextField_ok_iff.mpr ⟨?_, ?_⟩
  · obtain ⟨c, hc⟩ := List.exists_mem_of_ne_nil _ hne
    have hmem : c ∈ (encodeOpening bytes).toList := by rwa [encodeOpening, String.toList_ofList]
    exact List.all_eq_false.mpr ⟨c, hmem, by simp [(hchars c hmem).1]⟩
  · exact List.any_eq_false.mpr fun c hc => by simp [(hchars c hc).2]

theorem validateOpening_encodeOpening {profile : CommitmentProfile} {bytes : List UInt8}
    (h : bytes.length = profile.openingLen.toNat) : validateOpening profile (encodeOpening bytes) = .ok () := by
  rw [validateOpening, encodeOpening, String.toList_ofList, Base64.decode_encode]
  exact if_neg (by simp [h])

/-- A key that may be used anew may be used to verify. -/
theorem prepareProfileUse_verify {state : LoadedKeys} {kid profileKid kind : String}
    (h : prepareProfileUse state kid profileKid kind .newUse = .ok ()) :
    prepareProfileUse state kid profileKid kind .verify = .ok () := by
  obtain ⟨hkid, h⟩ := Loop.guard_eq_ok.mp h
  obtain ⟨key, hkey, huse⟩ := Loop.bind_eq_ok.mp h
  refine Loop.guard_eq_ok.mpr ⟨hkid, Loop.bind_eq_ok.mpr ⟨key, hkey, ?_⟩⟩
  simp only [requireProfileUse, requireLifecycleForNewUse, requireLifecycleForDecryptOrVerify] at huse ⊢
  split at huse
  · rfl
  · cases huse
  · cases huse

theorem prepareProfileUse_kid {state : LoadedKeys} {kid profileKid kind : String} {useKind : ProfileUse}
    (h : prepareProfileUse state kid profileKid kind useKind = .ok ()) : validateKeyId kid = .ok () ∧
    profileKid = kid := by
  obtain ⟨hkid, h⟩ := Loop.guard_eq_ok.mp h
  obtain ⟨key, hkey, -⟩ := Loop.bind_eq_ok.mp h
  exact ⟨(getLoadedKey_ok_iff.mp hkey).1, Decidable.not_not.mp hkid⟩

variable {lib : TagLib} {serde : SerdeJson} {profile : CommitmentProfile} {state : LoadedKeys}

theorem validateCreateInput_ok_iff {input validated : CommitCreateInput} : validateCreateInput input = .ok validated ↔
    validateRef input.refId = .ok () ∧ validateAadConfigName "profile" input.profile = .ok () ∧
      validateTextField "plaintext" input.plaintext = .ok () ∧ input = validated := by
  unfold validateCreateInput
  rw [Loop.bind_unit_eq_ok, Loop.bind_unit_eq_ok, Loop.bind_unit_eq_ok, Except.ok.injEq]

theorem prepareCreate_ok_iff {kid : String} {input : CommitCreateInput} {prepared : PreparedCommitCreate} :
    prepareCreate state kid profile input = .ok prepared ↔ prepareProfileUse state kid profile.kid "commit" .newUse =
    .ok () ∧
      validatePlaintextLen profile input.plaintext = .ok () ∧ ⟨kid, profile, input⟩ = prepared := by
  unfold prepareCreate
  rw [Loop.bind_unit_eq_ok, Loop.bind_unit_eq_ok, Except.ok.injEq]

/-- Verifying what was computed, with a key that may be used to verify. -/
theorem verify_created (hp : Accepted profile) {kid : String} {input : CommitCreateInput} {refId : String}
    (href : validateRef refId = .ok ()) (hname : validateAadConfigName "profile" input.profile = .ok ())
    (hplaintext : validateTextField "plaintext" input.plaintext = .ok ())
    (hlength : validatePlaintextLen profile input.plaintext = .ok ()) {bytes : List UInt8}
    (hbytes : bytes.length = profile.openingLen.toNat) {tag : List UInt8} (hne : tag ≠ [])
    (htag : computeCommitment lib serde profile (encodeOpening bytes) input.plaintext = .ok tag)
    (huse : prepareProfileUse state kid profile.kid "commit" .verify = .ok ()) :
    verifyRequest lib serde state profile
        ⟨refId, kid, input.profile, input.plaintext, encodeOpening bytes, Hex.encode tag⟩ =
      .ok ⟨refId, kid, input.profile, true⟩ := by
  have hopening : bytes ≠ [] := by
    have hmin := hp.opening
    intro hnil
    rw [hnil, List.length_nil] at hbytes
    rw [← hbytes] at hmin
    exact absurd hmin (by decide)
  have hvalidate : validateVerifyInput ⟨refId, kid, input.profile, input.plaintext, encodeOpening bytes,
      Hex.encode tag⟩ = .ok ⟨refId, kid, input.profile, input.plaintext, encodeOpening bytes, Hex.encode tag⟩ := by
    unfold validateVerifyInput
    rw [Loop.bind_unit_eq_ok, Loop.bind_unit_eq_ok, Loop.bind_unit_eq_ok, Loop.bind_unit_eq_ok, Loop.bind_unit_eq_ok,
      Loop.bind_unit_eq_ok, Loop.mapError_eq_ok]
    exact ⟨href, (prepareProfileUse_kid huse).1, hname, hplaintext, validateTextField_encodeOpening hopening,
      validateHexField_encode hne, rfl⟩
  have hprepare : prepareVerify state profile
      ⟨refId, kid, input.profile, input.plaintext, encodeOpening bytes, Hex.encode tag⟩ =
        .ok ⟨kid, profile, ⟨refId, kid, input.profile, input.plaintext, encodeOpening bytes, Hex.encode tag⟩⟩ := by
    unfold prepareVerify
    rw [Loop.bind_unit_eq_ok, Loop.bind_unit_eq_ok, Loop.bind_unit_eq_ok]
    exact ⟨huse, hlength, validateOpening_encodeOpening hbytes, rfl⟩
  refine Loop.bind_eq_ok.mpr ⟨_, hvalidate, Loop.bind_eq_ok.mpr ⟨_, hprepare, ?_⟩⟩
  refine Loop.bind_eq_ok.mpr ⟨tag, htag, Loop.bind_eq_ok.mpr ⟨tag, ?_, ?_⟩⟩
  · rw [hexDecode, Hex.decode_encode]
  · rw [constantTimeEq_iff.mpr rfl]

/-! ## What verifies -/

/-- A commitment that verifies was computed from the opening and the plaintext of the request. -/
theorem verifyRequest_valid {input : CommitVerifyInput} {output : CommitVerifyOutput}
    (h : verifyRequest lib serde state profile input = .ok output) (hvalid : output.valid = true) :
    ∃ value, Hex.decode input.commitment = some value ∧
      computeCommitment lib serde profile input.opening input.plaintext = .ok value := by
  obtain ⟨validated, hvalidate, h⟩ := Loop.bind_eq_ok.mp h
  have hsame : input = validated := by
    unfold validateVerifyInput at hvalidate
    simp only [Loop.bind_unit_eq_ok, Except.ok.injEq] at hvalidate
    exact hvalidate.2.2.2.2.2.2
  subst hsame
  obtain ⟨prepared, hprepare, h⟩ := Loop.bind_eq_ok.mp h
  have hprepared : ⟨input.kid, profile, input⟩ = prepared := by
    unfold prepareVerify at hprepare
    simp only [Loop.bind_unit_eq_ok, Except.ok.injEq] at hprepare
    exact hprepare.2.2.2
  subst hprepared
  obtain ⟨expected, hexpected, h⟩ := Loop.bind_eq_ok.mp h
  obtain ⟨actual, hactual, h⟩ := Loop.bind_eq_ok.mp h
  cases h
  obtain rfl := constantTimeEq_iff.mp hvalid
  refine ⟨expected, ?_, hexpected⟩
  unfold hexDecode at hactual
  split at hactual
  · rename_i bytes hbytes
    cases hactual
    exact hbytes
  · cases hactual

/-- Under an accepted profile every plaintext that the create operation accepts is committed to, and the commitment
verifies with its opening under the same kid and profile, wherever the key may be used to verify. A commitment value
that verifies was computed by nothing but the profile's name and kid, the opening and the plaintext, and verifies with
no other pair. -/
theorem commitments_verify_and_bind (lib : TagLib) (hworks : Works lib) (hinj : Injective lib) (serde : SerdeJson)
    (hkdf : Hkdf) (hsized : Sized hkdf) (hooks : TagHooks) (hresolved : hooks.Resolved)
    (profileInputs : List CommitmentProfileInput)
    (profiles : ProfilesState CommitmentProfile)
    (hprofiles : validateCommitmentProfiles hkdf hooks profileInputs = .ok profiles) (name : String)
    (profile : CommitmentProfile) (hprofile : profiles.get name = some profile) :
    (∀ (state : LoadedKeys) (kid : String) (input validated : CommitCreateInput) (prepared : PreparedCommitCreate),
      input.profile = name → validateCreateInput input = .ok validated →
      prepareCreate state kid profile validated = .ok prepared →
      ∀ bytes : List UInt8, bytes.length = profile.openingLen.toNat →
      ∃ output, create lib serde prepared (.ok bytes) = .ok output ∧ output.kid = kid ∧ output.profile = name ∧
        prepareProfileUse state kid profile.kid "commit" .verify = .ok () ∧
        ∀ (state' : LoadedKeys), prepareProfileUse state' kid profile.kid "commit" .verify = .ok () →
          verifyRequest lib serde state' profile
              ⟨output.refId, output.kid, output.profile, input.plaintext, output.opening, output.commitment⟩ =
            .ok ⟨output.refId, output.kid, output.profile, true⟩) ∧
    ∀ (state : LoadedKeys) (input : CommitVerifyInput) (output : CommitVerifyOutput),
      verifyRequest lib serde state profile input = .ok output → output.valid = true →
      ∃ value, Hex.decode input.commitment = some value ∧
        (∀ other opening plaintext, computeCommitment lib serde other opening plaintext = .ok value →
          other.name = profile.name ∧ other.kid = profile.kid ∧ opening = input.opening ∧ plaintext = input.plaintext) ∧
        ∀ (state' : LoadedKeys) (input' : CommitVerifyInput) (output' : CommitVerifyOutput),
          Hex.decode input'.commitment = some value → verifyRequest lib serde state' profile input' = .ok output' →
          output'.valid = true → input'.opening = input.opening ∧ input'.plaintext = input.plaintext := by
  have hp : Accepted profile := accepted_of_validate hsized hresolved hprofiles (ProfilesState.mem_of_get hprofile)
  refine ⟨?_, ?_⟩
  · intro state kid input validated prepared hname hvalidate hprepare bytes hbytes
    obtain ⟨href, hprofileName, hplaintext, rfl⟩ := validateCreateInput_ok_iff.mp hvalidate
    obtain ⟨huse, hlength, rfl⟩ := prepareCreate_ok_iff.mp hprepare
    obtain ⟨tag, htag, hne⟩ := computeCommitment_total hworks hp serde (encodeOpening bytes) input.plaintext
    have hcreate : create lib serde ⟨kid, profile, input⟩ (.ok bytes) =
        .ok ⟨input.refId, kid, input.profile, profile.publicAlgorithm, Hex.encode tag, encodeOpening bytes⟩ :=
      Loop.bind_eq_ok.mpr ⟨_, rfl, Loop.bind_eq_ok.mpr ⟨tag, htag, rfl⟩⟩
    exact ⟨_, hcreate, rfl, hname, prepareProfileUse_verify huse, fun state' huse' =>
      verify_created hp href hprofileName hplaintext hlength hbytes hne htag huse'⟩
  · intro state input output h hvalid
    obtain ⟨value, hdecode, hvalue⟩ := verifyRequest_valid h hvalid
    refine ⟨value, hdecode, fun other opening plaintext hother => ?_, fun state' input' output' hdecode' h' hvalid' =>
      ?_⟩
    · exact computeCommitment_injective hinj hother hvalue
    · obtain ⟨value', hvalueText, hvalue'⟩ := verifyRequest_valid h' hvalid'
      rw [hdecode', Option.some.injEq] at hvalueText
      subst hvalueText
      exact (computeCommitment_injective hinj hvalue' hvalue).2.2

/-! ## An example -/

/-- A tag that is its payload, after one byte. -/
def exampleLib : TagLib where
  hmac _ _ message := .ok (1 :: message)
  kmac _ _ _ message := .ok (1 :: message)

theorem exampleLib_tag {kmac : Bool} {algorithm : String} {key : List UInt8} {customization : String}
    {payload : List UInt8} :
    computeKeyedTag exampleLib kmac algorithm key customization payload = .ok (1 :: payload) := by
  cases kmac <;> rfl

theorem exampleLib_works : Works exampleLib := by
  intro hash resolved key customization payload _ _
  exact ⟨_, exampleLib_tag, List.cons_ne_nil _ _⟩

theorem exampleLib_injective : Injective exampleLib := by
  intro kmac kmac' algorithm algorithm' key key' customization customization' payload payload' tag h h'
  rw [exampleLib_tag, Except.ok.injEq] at h h'
  exact List.tail_eq_of_cons_eq (h.trans h'.symm)

def exampleKid : String := "aaaaaaaaaaaaaaaaaaaaaaaaaaaaaaaaaaaaaaaaaaaaaaaaaaaaaaaaaaaaaaaa"

def exampleHkdf : Hkdf := fun _ _ _ length => .ok (List.replicate length 2)

def exampleHooks : TagHooks where
  isLoadedKid _ := true
  hashAlgorithmForKid _ := .ok "SHA-256"
  deriveKey := deriveCommitmentKeyForProfile exampleHkdf "00"

def exampleProfile : CommitmentProfile :=
  ⟨"pins", exampleKid, "tenant=demo", 20, 32, "HMAC(SHA-256)", "HMAC(SHA-256)",
    "profile=pins;kid=" ++ exampleKid ++ ";context.tenant=demo", List.replicate 32 2⟩

def exampleKey : OpsKey where
  id := exampleKid
  aad := ""
  propertiesAad := ""
  keyMaterial := ⟨⟨"", ""⟩, ⟨"", "", ""⟩, ⟨"", "", ""⟩, ⟨"", "", ""⟩, ⟨"", "", ""⟩, "SHA-256"⟩
  properties := ⟨1, "custom", "", "", ⟨"active", "", ""⟩⟩

def exampleKeys : LoadedKeys := .fromKeys LoadedOpsKey.id [exampleKey]

/-- A pin is committed to and verified. -/
theorem commitments_verify_and_bind_example :
    validateCommitmentProfiles exampleHkdf exampleHooks [⟨"pins", exampleKid, "tenant=demo", 20, 32⟩] =
      .ok (.fromProfiles CommitmentProfile.name [exampleProfile]) ∧
    ∃ output, create exampleLib .compact ⟨exampleKid, exampleProfile, ⟨"row", "pins", "1234"⟩⟩
        (.ok (List.replicate 32 3)) = .ok output ∧
      verifyRequest exampleLib .compact exampleKeys exampleProfile
          ⟨output.refId, output.kid, output.profile, "1234", output.opening, output.commitment⟩ =
        .ok ⟨output.refId, output.kid, output.profile, true⟩ := by
  have hprofiles : validateCommitmentProfiles exampleHkdf exampleHooks [⟨"pins", exampleKid, "tenant=demo", 20, 32⟩] =
      .ok (.fromProfiles CommitmentProfile.name [exampleProfile]) := by decide +kernel
  have hresolved : exampleHooks.Resolved := by
    intro request derived h
    exact ⟨request.hashAlgorithm, deriveTagKeyForProfile_resolved h⟩
  have hsized : Sized exampleHkdf := by
    intro inputKey salt info length output h
    cases h
    exact List.length_replicate
  refine ⟨hprofiles, ?_⟩
  obtain ⟨output, hcreate, -, -, huse, hverify⟩ :=
    (commitments_verify_and_bind exampleLib exampleLib_works exampleLib_injective .compact exampleHkdf hsized
      exampleHooks hresolved _ _ hprofiles "pins" exampleProfile rfl).1 exampleKeys exampleKid ⟨"row", "pins", "1234"⟩ _
        _ rfl rfl rfl
      (List.replicate 32 3) rfl
  exact ⟨output, hcreate, hverify exampleKeys huse⟩

end Vectis.Ops.Commitments

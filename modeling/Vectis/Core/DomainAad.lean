import Vectis.Core.Commitments
import Vectis.Core.DeterministicTokenization
import Vectis.Core.Sharing.Profile

/-!
# Domains of profiles

The associated data that separates the keys and tags of profiles (`build_mac_domain_aad`) is built from fields and a
context that were accepted one by one: a name, a kid and labels.

- `aadOk_label_iff`: a label of an accepted context is a field exactly when its value has a visible character, which
  `validate_labels` does not ask for;
- `domain_aad_iff`: so the associated data of an accepted profile is always built, and unambiguous, exactly when all its
  label values have one.
-/

namespace Vectis.Core.Mac

open Validation Profiles Ops.Keys

/-! ## What the code builds -/

/-- The fields before the context, for the profiles of one name and kid. -/
inductive BaseFields (name kid : String) : AadFields → Prop
  | customization : BaseFields name kid [("profile", name), ("kid", kid)]
  | key {purpose hashAlgorithm : String} {resolved : ResolvedMacAlgorithm} :
      purpose ∈ ["mac-key", "commitment-key", "sharing-key"] → resolveMacAlgorithm hashAlgorithm = .ok resolved →
      BaseFields name kid [("purpose", purpose), ("profile", name), ("kid", kid),
        ("algorithm", resolved.publicAlgorithm)]
  | deterministic : BaseFields name kid [("purpose", "token-deterministic-data"), ("profile", name), ("kid", kid),
      ("tokenization_version", DeterministicTokenization.version)]

/-- The profiles the validators of the four sections accept, by their fields. -/
inductive AcceptedFields (name kid context : String) : Prop
  | mac : validateMacProfileFields name context = .ok () → validateKeyId kid = .ok () → AcceptedFields name kid context
  | commitment {maxPlaintextLen openingLen : Nat} :
      Commitments.validateCommitmentProfileFields name context maxPlaintextLen openingLen = .ok () →
      validateKeyId kid = .ok () → AcceptedFields name kid context
  | sharing {threshold shares maxSecretLen : Nat} :
      Sharing.validateSharingProfileFields name context threshold shares maxSecretLen = .ok () →
      validateKeyId kid = .ok () → AcceptedFields name kid context
  | deterministic {input : DeterministicTokenization.DeterministicTokenProfileInput} {loaded : String → Bool}
      {derive : DeterministicTokenization.DeterministicTokenKeyDerivationRequest →
        Res (List UInt8)} {seenNames : List String}
      {profile : DeterministicTokenization.DeterministicTokenProfile} :
      DeterministicTokenization.validateProfile loaded derive seenNames input = .ok profile → input.name = name →
      input.kid = kid → input.context = context → AcceptedFields name kid context

/-- Every label value has a character that is not white space. -/
def VisibleLabels (context : String) : Prop :=
  ∀ label ∈ splitLabels context, ∀ key value, splitOnce '=' label = some (key, value) → value.all isWhitespace = false

/-! ## Accepted fields -/

/-- What all four validators check. -/
structure FieldsOk (name kid context : String) : Prop where
  name : ∃ field, validateAadConfigName field name = .ok ()
  kid : validateKeyId kid = .ok ()
  labels : ∃ field, validateLabels field context macContextMaxChars = .ok ()

theorem AcceptedFields.fieldsOk {name kid context : String} (h : AcceptedFields name kid context) :
    FieldsOk name kid context := by
  cases h with
  | mac h hkid =>
    obtain ⟨hname, hlabels⟩ := Loop.bind_unit_eq_ok.mp h
    exact ⟨⟨_, hname⟩, hkid, _, hlabels⟩
  | commitment h hkid =>
    obtain ⟨hname, h⟩ := Loop.bind_unit_eq_ok.mp h
    obtain ⟨hlabels, -⟩ := Loop.bind_unit_eq_ok.mp h
    exact ⟨⟨_, hname⟩, hkid, _, hlabels⟩
  | sharing h hkid =>
    obtain ⟨hname, h⟩ := Loop.bind_unit_eq_ok.mp h
    obtain ⟨hlabels, -⟩ := Loop.bind_unit_eq_ok.mp h
    exact ⟨⟨_, hname⟩, hkid, _, hlabels⟩
  | deterministic h hname hkid hcontext =>
    subst hname hkid hcontext
    obtain ⟨hname, h⟩ := Loop.bind_unit_eq_ok.mp h
    obtain ⟨hkid, h⟩ := Loop.bind_unit_eq_ok.mp h
    obtain ⟨hfields, -⟩ := Loop.bind_unit_eq_ok.mp h
    obtain ⟨-, hlabels⟩ := Loop.bind_unit_eq_ok.mp hfields
    exact ⟨⟨_, hname⟩, hkid, _, hlabels⟩

theorem aadOk_algorithm {hashAlgorithm : String} {resolved : ResolvedMacAlgorithm}
    (h : resolveMacAlgorithm hashAlgorithm = .ok resolved) : AadOk ("algorithm", resolved.publicAlgorithm) := by
  have hmem := validateAllowedValue_mem (Loop.bind_unit_eq_ok.mp h).1
  have hall : ∀ a ∈ hashAlgorithms,
      ((resolveMacAlgorithm a).toOption.all fun r => validateAadValue "" r.publicAlgorithm = .ok ()) = true := by
    decide +kernel
  have hvalue : validateAadValue "" resolved.publicAlgorithm = .ok () := by
    have := hall hashAlgorithm hmem
    rw [h] at this
    simpa [Except.toOption] using this
  exact aadOk_of (show validateAadKey "" "algorithm" = .ok () by decide) hvalue

theorem aadOk_base {name kid context : String} (h : FieldsOk name kid context) {base : AadFields}
    (hbase : BaseFields name kid base) : ∀ field ∈ base, AadOk field := by
  obtain ⟨nameField, hname⟩ := h.name
  have hprofile : AadOk ("profile", name) := aadOk_name (by decide) hname
  have hkid : AadOk ("kid", kid) := aadOk_kid (by decide) h.kid
  cases hbase with
  | customization => simp [hprofile, hkid]
  | key hpurpose halgorithm =>
    have hpurposes : ∀ p ∈ ["mac-key", "commitment-key", "sharing-key"], validateAadValue "" p = .ok () := by decide
    have hp : AadOk ("purpose", _) := aadOk_of (show validateAadKey "" "purpose" = .ok () by decide)
      (hpurposes _ hpurpose)
    simp [hp, hprofile, hkid, aadOk_algorithm halgorithm]
  | deterministic =>
    have hp : AadOk ("purpose", "token-deterministic-data") := aadOk_of_validate (by rfl)
    have hv : AadOk ("tokenization_version", DeterministicTokenization.version) :=
      aadOk_of_validate (by rfl)
    simp [hp, hprofile, hkid, hv]

/-! ## Labels as fields -/

/-- The field of a label. -/
def labelField (key value : List Char) : String × String := ("context." ++ String.ofList key, String.ofList value)

/-- A label without control characters and semicolons is a field iff its value is visible. -/
theorem aadOk_label_iff {label key value : List Char} (h : LabelOk label key value) (hcontrol : ∀ c ∈ label,
    isControl c = false) (hsemicolon : ';' ∉ label) : AadOk (labelField key value) ↔
      value.all isWhitespace = false := by
  have hlabel := (splitOnce_some.mp h.split).1
  constructor
  · intro hok
    have := (validateAadValue_ok_iff.mp (hok.value "")).1.1
    simpa [labelField] using this
  · intro hvisible
    have hkey : validateAadKey "" ("context." ++ String.ofList key) = .ok () := by
      have hfixed : "context.".toList.all isKeyChar = true ∧ "context.".toList.any isControl = false ∧
        "context.".toList.all isWhitespace = false := by decide
      refine validateAadKey_ok_iff.mpr ⟨⟨?_, ?_⟩, ?_⟩
      · rw [String.toList_append, List.all_append, hfixed.2.2, Bool.false_and]
      · rw [String.toList_append, List.any_append, hfixed.2.1, Bool.false_or, String.toList_ofList, List.any_eq_false]
        intro c hc
        rw [hcontrol c (by rw [hlabel]; exact List.mem_append_left _ hc)]
        exact Bool.false_ne_true
      · rw [String.toList_append, List.all_append, hfixed.1, Bool.true_and, String.toList_ofList]
        exact h.keyChars
    have hvalue : validateAadValue "" (String.ofList value) = .ok () := by
      refine validateAadValue_ok_iff.mpr ?_
      rw [String.toList_ofList]
      refine ⟨⟨hvisible, ?_⟩, ?_, h.single⟩
      · rw [List.any_eq_false]
        intro c hc
        rw [hcontrol c (by rw [hlabel]; simp [hc])]
        exact Bool.false_ne_true
      · exact fun hc => hsemicolon (by rw [hlabel]; simp [hc])
    exact aadOk_of hkey hvalue

/-- The fields of accepted labels. -/
theorem contextFields_ok : ∀ {labels : List (List Char)}, (∀ label ∈ labels, ∃ key value, LabelOk label key value) →
    ∃ fields, contextFields labels = .ok fields ∧ ∀ field, field ∈ fields ↔
      ∃ label ∈ labels, ∃ key value, LabelOk label key value ∧ field = labelField key value
  | [], _ => ⟨[], rfl, by simp⟩
  | label :: labels, h => by
    obtain ⟨key, value, hlabel⟩ := h label List.mem_cons_self
    obtain ⟨fields, hfields, hmem⟩ := contextFields_ok fun l hl => h l (List.mem_cons_of_mem _ hl)
    refine ⟨labelField key value :: fields, ?_, fun field => ?_⟩
    · rw [contextFields, hlabel.split]
      simp only [hfields]
      rfl
    · rw [List.mem_cons, hmem, List.exists_mem_cons_iff]
      refine or_congr_left ⟨?_, ?_⟩
      · rintro rfl
        exact ⟨key, value, hlabel, rfl⟩
      · rintro ⟨key', value', hlabel', rfl⟩
        have heq := Option.some.inj (hlabel.split.symm.trans hlabel'.split)
        rw [(Prod.mk.inj heq).1, (Prod.mk.inj heq).2]

/-- The associated data is built iff its fields are accepted and its labels are visible. -/
theorem buildMacDomainAad_ok_iff {base : AadFields} {context field : String}
    (hlabels : validateLabels field context macContextMaxChars = .ok ()) (hbase : ∀ f ∈ base, AadOk f) :
    (∃ aad, buildMacDomainAad base context = .ok aad) ↔ VisibleLabels context := by
  obtain ⟨htext, hitems⟩ := Loop.bind_unit_eq_ok.mp hlabels
  have htext' := validateBoundedTextField_ok_iff.mp htext
  have hitems' := validateLabelItems_ok hitems
  obtain ⟨fields, hfields, hmem⟩ := contextFields_ok hitems'
  have hcontrol : ∀ label ∈ splitLabels context, (∀ c ∈ label, isControl c = false) ∧ ';' ∉ label := by
    intro label hlabel
    obtain ⟨hchars, hsemicolon⟩ := mem_splitOn hlabel
    refine ⟨fun c hc => ?_, hsemicolon⟩
    simpa using List.any_eq_false.mp htext'.1.2 c (hchars c hc)
  have hvalid : validateLabels "mac_profiles.context" context macContextMaxChars = .ok () :=
    validateLabels_field hlabels
  have hbuild : (∃ aad, buildMacDomainAad base context = .ok aad) ↔ ∀ f ∈ fields, AadOk f := by
    rw [buildMacDomainAad, hvalid]
    simp only [bind, Except.bind, hfields]
    simp only [buildValidatedAad_ok_iff, List.forall_mem_append]
    constructor
    · rintro ⟨_, h, _⟩
      exact h.2
    · intro h
      exact ⟨_, ⟨hbase, h⟩, rfl⟩
  rw [hbuild]
  constructor
  · intro hok label hlabel key value hsplit
    obtain ⟨key', value', hlabel'⟩ := hitems' label hlabel
    have heq := Option.some.inj (hsplit.symm.trans hlabel'.split)
    cases heq
    obtain ⟨hc, hs⟩ := hcontrol label hlabel
    exact (aadOk_label_iff hlabel' hc hs).mp (hok _ ((hmem _).mpr ⟨label, hlabel, key, value, hlabel', rfl⟩))
  · intro hvisible f hf
    obtain ⟨label, hlabel, key, value, hlabel', rfl⟩ := (hmem f).mp hf
    obtain ⟨hc, hs⟩ := hcontrol label hlabel
    exact (aadOk_label_iff hlabel' hc hs).mpr (hvisible label hlabel key value hlabel'.split)

/-! ## Domains -/

/-- The associated data of a profile is built for all fields the code puts before the context, and no other values of
these fields and no other context give the same. -/
structure DomainsBuilt (name kid context : String) : Prop where
  built : ∀ base, BaseFields name kid base → ∃ aad, buildMacDomainAad base context = .ok aad
  injective : ∀ base base' context' aad, base.map Prod.fst = base'.map Prod.fst →
    buildMacDomainAad base context = .ok aad → buildMacDomainAad base' context' = .ok aad →
    base.map Prod.snd = base'.map Prod.snd ∧ context = context'

theorem domain_aad_iff {name kid context : String} (h : AcceptedFields name kid context) :
    DomainsBuilt name kid context ↔ VisibleLabels context := by
  have hok := h.fieldsOk
  obtain ⟨field, hlabels⟩ := hok.labels
  constructor
  · intro hbuilt
    have hbase := aadOk_base hok .customization
    exact (buildMacDomainAad_ok_iff hlabels hbase).mp (hbuilt.built _ .customization)
  · intro hvisible
    refine ⟨fun base hbase => (buildMacDomainAad_ok_iff hlabels (aadOk_base hok hbase)).mpr hvisible, ?_⟩
    intro base base' context' aad hkeys haad haad'
    have hlength : base.length = base'.length := by simpa using congrArg List.length hkeys
    obtain ⟨rfl, rfl⟩ := buildMacDomainAad_injective hlength haad haad'
    exact ⟨rfl, rfl⟩

def exampleKid : String := "aaaaaaaaaaaaaaaaaaaaaaaaaaaaaaaaaaaaaaaaaaaaaaaaaaaaaaaaaaaaaaaa"

theorem exampleKid_accepted (field : String) : validateHashHexField field exampleKid internalKeysHash = .ok () :=
  validateInternalHash_replicate (c := 'a') (by decide) field

theorem visibleLabels_tenant : VisibleLabels "tenant=acme" := by
  have hall : ∀ label ∈ splitLabels "tenant=acme",
      ((splitOnce '=' label).all fun parts => !parts.2.all isWhitespace) = true := by decide
  intro label hlabel key value hsplit
  have := hall label hlabel
  rw [hsplit] at this
  simpa using this

/-- A tenant label. -/
theorem domain_aad_iff_example : AcceptedFields "card-mac" exampleKid "tenant=acme" ∧
    DomainsBuilt "card-mac" exampleKid "tenant=acme" := by
  have haccepted : AcceptedFields "card-mac" exampleKid "tenant=acme" := .mac rfl (exampleKid_accepted "id")
  exact ⟨haccepted, (domain_aad_iff haccepted).mpr visibleLabels_tenant⟩

/-- A label value of one space is accepted, and no associated data is built from it. -/
theorem blank_label_not_built : validateMacProfileFields "card-mac" "tenant= " = .ok () ∧
    validateKeyId exampleKid = .ok () ∧
    buildMacDomainAad [("profile", "card-mac"), ("kid", exampleKid)] "tenant= " =
      .error (.invalidInput "aad.context.tenant must not be empty") ∧
      ¬ DomainsBuilt "card-mac" exampleKid "tenant= " := by
  have herror : buildMacDomainAad [("profile", "card-mac"), ("kid", exampleKid)] "tenant= " =
      .error (.invalidInput "aad.context.tenant must not be empty") := by decide +kernel
  refine ⟨rfl, exampleKid_accepted "id", herror, fun hbuilt => ?_⟩
  obtain ⟨aad, haad⟩ := hbuilt.built _ .customization
  rw [herror] at haad
  cases haad

end Vectis.Core.Mac

import Vectis.Core.Profiles

/-!
# Keyed tags

The `mac_profiles` section and the keys of tags (`core/mac.rs`), which the commitment and sharing profiles have as well:
their key comes from the key of the kid and from associated data with the labels of the profile (`buildMacDomainAad`).
-/

namespace Vectis.Core.Mac

open Validation Profiles Ops.Keys

/-! ## Data -/

def macKeySalt : List UInt8 := bytesOf "vectis/mac/v1"

def macHmacSubkeySalt : List UInt8 := bytesOf "vectis/mac/hmac/v1"

def macKeySizeBytes : Nat := 32

def macContextMaxChars : Nat := 128

/-- `config::INTERNAL_KEYS_KMAC`. -/
def internalKeysKmac : String := "KMAC-256"

structure MacProfileInput where
  name : String
  kid : String
  context : String
  deriving DecidableEq, Repr

structure MacProfile where
  name : String
  kid : String
  context : String
  publicAlgorithm : String
  botanAlgorithm : String
  customization : String
  macKey : List UInt8
  deriving DecidableEq, Repr

/-- `MacKeyDerivationRequest`; those of commitments and sharing have the same fields. -/
structure TagKeyRequest where
  profileName : String
  kid : String
  context : String
  hashAlgorithm : String

/-- `DerivedMacKey`; those of commitments and sharing have the same fields. -/
structure DerivedTagKey where
  publicAlgorithm : String
  botanAlgorithm : String
  key : List UInt8
  deriving DecidableEq, Repr

structure ResolvedMacAlgorithm where
  publicAlgorithm : String
  botanAlgorithm : String
  deriving DecidableEq, Repr

/-! ## Associated data with labels -/

/-- The labels as fields. -/
def contextFields : List (List Char) → Res AadFields
  | [] => .ok []
  | label :: labels =>
    match splitOnce '=' label with
    | none => .error (.invalidInput "mac_profiles.context labels must use key=value format")
    | some (key, value) =>
      (contextFields labels).map fun fields => ("context." ++ String.ofList key, String.ofList value) :: fields

def buildMacDomainAad (baseFields : AadFields) (context : String) : Res String := do
  validateLabels "mac_profiles.context" context macContextMaxChars
  let fields ← contextFields (splitLabels context)
  buildValidatedAad (baseFields ++ fields)

theorem buildMacDomainAad_ok {baseFields : AadFields} {context aad : String}
    (h : buildMacDomainAad baseFields context = .ok aad) :
    ∃ fields, contextFields (splitLabels context) = .ok fields ∧
    buildValidatedAad (baseFields ++ fields) = .ok aad := by
  rw [buildMacDomainAad, Loop.bind_unit_eq_ok] at h
  exact Loop.bind_eq_ok.mp h.2

/-- The fields determine the labels. -/
theorem contextFields_injective : ∀ {labels labels' : List (List Char)} {fields : AadFields},
    contextFields labels = .ok fields → contextFields labels' = .ok fields → labels = labels'
  | [], [], _, _, _ => rfl
  | [], label :: labels, fields, h, h' => by
    cases h
    rw [contextFields] at h'
    split at h'
    · cases h'
    · obtain ⟨rest, -, hrest⟩ := Loop.map_eq_ok.mp h'
      cases hrest
  | label :: labels, [], fields, h, h' => by
    cases h'
    rw [contextFields] at h
    split at h
    · cases h
    · obtain ⟨rest, -, hrest⟩ := Loop.map_eq_ok.mp h
      cases hrest
  | label :: labels, label' :: labels', fields, h, h' => by
    rw [contextFields] at h h'
    split at h
    · cases h
    · rename_i key value hsplit
      split at h'
      · cases h'
      · rename_i key' value' hsplit'
        obtain ⟨rest, hrest, rfl⟩ := Loop.map_eq_ok.mp h
        obtain ⟨rest', hrest', hfields⟩ := Loop.map_eq_ok.mp h'
        rw [List.cons.injEq, Prod.mk.injEq, String.append_right_inj, String.ofList_inj, String.ofList_inj] at hfields
        obtain ⟨⟨rfl, rfl⟩, rfl⟩ := hfields
        rw [contextFields_injective hrest hrest', (splitOnce_some.mp hsplit).1, (splitOnce_some.mp hsplit').1]

/-- Equal associated data comes from equal fields and an equal context, when as many fields come first. -/
theorem buildMacDomainAad_injective {baseFields baseFields' : AadFields} {context context' aad : String}
    (hlength : baseFields.length = baseFields'.length) (h : buildMacDomainAad baseFields context = .ok aad)
    (h' : buildMacDomainAad baseFields' context' = .ok aad) : baseFields = baseFields' ∧ context = context' := by
  obtain ⟨fields, hfields, haad⟩ := buildMacDomainAad_ok h
  obtain ⟨fields', hfields', haad'⟩ := buildMacDomainAad_ok h'
  obtain ⟨hbase, hrest⟩ := List.append_inj (buildValidatedAad_injective haad haad') hlength
  subst hrest
  have hlabels := contextFields_injective hfields hfields'
  refine ⟨hbase, ?_⟩
  have hjoin : ∀ text : String, String.ofList ([';'].intercalate (text.toList.splitOn ';')) = text := by
    intro text
    rw [List.intercalate_splitOn, String.ofList_toList]
  rw [← hjoin context, ← hjoin context']
  exact congrArg (fun labels => String.ofList ([';'].intercalate labels)) hlabels

/-! ## Algorithms and keys -/

def resolveMacAlgorithm (hashAlgorithm : String) : Res ResolvedMacAlgorithm := do
  validateAllowedValue "hash_algorithm" hashAlgorithm hashAlgorithms
  if hashAlgorithm = "SHA-3(224)" then .ok ⟨"KMAC-224", internalKeysKmac ++ "(224)"⟩
  else if hashAlgorithm = "SHA-3(256)" then .ok ⟨"KMAC-256", internalKeysKmac ++ "(256)"⟩
  else if hashAlgorithm = "SHA-3(384)" then .ok ⟨"KMAC-384", internalKeysKmac ++ "(384)"⟩
  else if hashAlgorithm = "SHA-3(512)" then .ok ⟨"KMAC-512", internalKeysKmac ++ "(512)"⟩
  else .ok ⟨"HMAC(" ++ hashAlgorithm ++ ")", "HMAC(" ++ hashAlgorithm ++ ")"⟩

/-- The key of a profile of mac, commitments or sharing, with its purpose and salt. -/
def deriveTagKeyForProfile (hkdf : Hkdf) (purpose : String) (salt : List UInt8) (size : Nat)
    (opsSymmetricKeyHex : String) (request : TagKeyRequest) : Res DerivedTagKey := do
  let resolved ← resolveMacAlgorithm request.hashAlgorithm
  let opsSymmetricKey ← hexDecode opsSymmetricKeyHex
  let info ← buildMacDomainAad [("purpose", purpose), ("profile", request.profileName), ("kid", request.kid),
    ("algorithm", resolved.publicAlgorithm)] request.context
  let key ← hkdf opsSymmetricKey salt (bytesOf info) size
  .ok ⟨resolved.publicAlgorithm, resolved.botanAlgorithm, key⟩

def deriveMacKeyForProfile (hkdf : Hkdf) (opsSymmetricKeyHex : String) (request : TagKeyRequest) : Res DerivedTagKey :=
  deriveTagKeyForProfile hkdf "mac-key" macKeySalt macKeySizeBytes opsSymmetricKeyHex request

def isKmacAlgorithm (publicAlgorithm : String) : Bool := "KMAC-".toList.isPrefixOf publicAlgorithm.toList

def deriveKeyedTagSubkey (hkdf : Hkdf) (publicAlgorithm : String) (derivedKey hmacSubkeySalt : List UInt8)
    (customization : String) (keySizeBytes : Nat) : Res (List UInt8) :=
  if isKmacAlgorithm publicAlgorithm then .ok derivedKey
  else hkdf derivedKey hmacSubkeySalt (bytesOf customization) keySizeBytes

/-- `create_hmac_with_algorithm` and `create_kmac_with_algorithm`. -/
structure TagLib where
  hmac : (algorithm : String) → (key message : List UInt8) → Res (List UInt8)
  kmac : (algorithm : String) → (key customization message : List UInt8) → Res (List UInt8)

def computeKeyedTag (lib : TagLib) (usesKmac : Bool) (botanAlgorithm : String) (key : List UInt8)
    (customization : String) (payload : List UInt8) : Res (List UInt8) :=
  if usesKmac then lib.kmac botanAlgorithm key (bytesOf customization) payload else lib.hmac botanAlgorithm key payload

/-- What a tag is computed from; an HMAC has no customization. -/
structure TagQuery where
  algorithm : String
  key : List UInt8
  customization : Option String
  payload : List UInt8
  deriving DecidableEq, Repr

/-- Tags of resolved algorithms under keys of the right size, of at most 64 bytes. -/
def TagLib.Total (lib : TagLib) : Prop := ∀ hash resolved key customization payload, resolveMacAlgorithm hash =
  .ok resolved →
  key.length = macKeySizeBytes → ∃ tag, computeKeyedTag lib (isKmacAlgorithm resolved.publicAlgorithm)
    resolved.botanAlgorithm key customization payload = .ok tag ∧ tag.length ≤ 64

/-- What the sections with tags need of the node. -/
structure TagHooks where
  isLoadedKid : String → Bool
  hashAlgorithmForKid : String → Res String
  deriveKey : TagKeyRequest → Res DerivedTagKey

/-- The algorithms of derived keys are those of a hash. -/
def TagHooks.Resolved (hooks : TagHooks) : Prop := ∀ request derived, hooks.deriveKey request = .ok derived →
  ∃ hash, resolveMacAlgorithm hash = .ok ⟨derived.publicAlgorithm, derived.botanAlgorithm⟩

/-- The keys of a profile: the derived one gives the algorithms, and its subkey is kept. -/
structure TagKeys where
  publicAlgorithm : String
  botanAlgorithm : String
  customization : String
  key : List UInt8
  deriving DecidableEq, Repr

/-- The second half of a round: from the hash of the kid to the key that is kept. -/
def deriveTagKeys (hkdf : Hkdf) (hooks : TagHooks) (kind : String) (subkeySalt : List UInt8) (size : Nat)
    (name kid context : String) : Res TagKeys := do
  let hashAlgorithm ← hooks.hashAlgorithmForKid kid
  let derived ← hooks.deriveKey ⟨name, kid, context, hashAlgorithm⟩
  if derived.key.length ≠ size then .error (.internal ("derived " ++ kind ++ " key has invalid length"))
  else
    let customization ← buildMacDomainAad [("profile", name), ("kid", kid)] context
    let key ← deriveKeyedTagSubkey hkdf derived.publicAlgorithm derived.key subkeySalt customization size
    .ok ⟨derived.publicAlgorithm, derived.botanAlgorithm, customization, key⟩

theorem deriveTagKeyForProfile_resolved {hkdf : Hkdf} {purpose : String} {salt : List UInt8} {size : Nat}
    {keyHex : String} {request : TagKeyRequest} {derived : DerivedTagKey}
    (h : deriveTagKeyForProfile hkdf purpose salt size keyHex request = .ok derived) :
    resolveMacAlgorithm request.hashAlgorithm = .ok ⟨derived.publicAlgorithm, derived.botanAlgorithm⟩ := by
  obtain ⟨resolved, hresolved, h⟩ := Loop.bind_eq_ok.mp h
  obtain ⟨key, -, h⟩ := Loop.bind_eq_ok.mp h
  obtain ⟨info, -, h⟩ := Loop.bind_eq_ok.mp h
  obtain ⟨derivedKey, -, h⟩ := Loop.bind_eq_ok.mp h
  cases h
  exact hresolved

/-- What holds of the keys of a profile. -/
theorem deriveTagKeys_ok {hkdf : Hkdf} (hsized : Sized hkdf) {hooks : TagHooks} (hresolved : hooks.Resolved)
    {kind : String} {subkeySalt : List UInt8} {size : Nat} {name kid context : String} {keys : TagKeys}
    (h : deriveTagKeys hkdf hooks kind subkeySalt size name kid context = .ok keys) : keys.key.length = size ∧
      ∃ hash, resolveMacAlgorithm hash = .ok ⟨keys.publicAlgorithm, keys.botanAlgorithm⟩ := by
  obtain ⟨hash, -, h⟩ := Loop.bind_eq_ok.mp h
  obtain ⟨derived, hderived, h⟩ := Loop.bind_eq_ok.mp h
  obtain ⟨hlength, h⟩ := Loop.guard_eq_ok.mp h
  obtain ⟨customization, -, h⟩ := Loop.bind_eq_ok.mp h
  obtain ⟨key, hkey, h⟩ := Loop.bind_eq_ok.mp h
  cases h
  refine ⟨?_, hresolved _ _ hderived⟩
  unfold deriveKeyedTagSubkey at hkey
  split at hkey
  · cases hkey
    exact Decidable.not_not.mp hlength
  · exact hsized _ _ _ _ _ hkey

/-! ## Validation -/

def validateMacProfileFields (name context : String) : Res Unit := do
  validateAadConfigName "mac_profiles.name" name
  validateLabels "mac_profiles.context" context macContextMaxChars

/-- One round of the loop over the profiles. -/
def validateMacProfile (hkdf : Hkdf) (hooks : TagHooks) (seenNames : List String) (profile : MacProfileInput) :
    Res MacProfile := do
  validateMacProfileFields profile.name profile.context
  validateProfileKid "mac" hooks.isLoadedKid profile.kid
  rejectDuplicatedName "mac" seenNames profile.name
  let keys ← deriveTagKeys hkdf hooks "mac" macHmacSubkeySalt macKeySizeBytes profile.name profile.kid profile.context
  .ok ⟨profile.name, profile.kid, profile.context, keys.publicAlgorithm, keys.botanAlgorithm, keys.customization,
    keys.key⟩

def validateMacProfiles (hkdf : Hkdf) (hooks : TagHooks) (profileInputs : List MacProfileInput) :
    Res (ProfilesState MacProfile) := do
  let profiles ← Loop.collect (validateMacProfile hkdf hooks) MacProfileInput.name [] profileInputs
  .ok (.fromProfiles MacProfile.name profiles)

end Vectis.Core.Mac

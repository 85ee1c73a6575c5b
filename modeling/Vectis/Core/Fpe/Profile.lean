import Mathlib.Data.List.Nodup
import Vectis.Core.Profiles

/-!
# Profiles of format-preserving encryption

The `fpe_profiles` section and the keys of its profiles (`core/fpe.rs`). FF1 is a library: a prepared cipher is its key
and its radix, and the check that `FF1::new` makes is a parameter.

- `ProfileOk`: what holds of every profile that `validateFpeProfiles` accepts (`profileOk_of_validate`);
- `lookup_index`: the index of the alphabet and the alphabet are inverse to each other.
-/

namespace Vectis.Core.Fpe

open Validation Profiles Ops.Keys

/-! ## Data -/

def fpeVersionFf12025 : String := "fpe-ff1-2025"

def fpeKeySalt : List UInt8 := bytesOf "vectis:fpe:ff1:v1"

def fpeKeySizeBytes : Nat := 32

def fpeValueMinLen : Nat := 6

def fpeValueMaxLen : Nat := 1024

def fpePreserveMaxChars : Nat := 32

def fpeAuthKeySalt : List UInt8 := bytesOf "vectis:fpe:mac:v1"

def fpeAuthKeySizeBytes : Nat := 32

def fpeAuthVersion : String := "v1"

/-- `config::FPE_TWEAK_AAD_MAX_CHARS`. -/
def fpeTweakAadMaxChars : Nat := 128

inductive AlphabetPreset
  | num
  | alpha
  | alphanum
  deriving DecidableEq, Repr

inductive LetterCase
  | uppercase
  | lowercase
  | mixed
  deriving DecidableEq, Repr

structure FpeProfileInput where
  name : String
  fpeVersion : String
  alphabet : Option String
  alphabetPreset : Option AlphabetPreset
  letterCase : Option LetterCase
  preserveCharacters : Option String
  authenticated : Bool
  subjectMode : SubjectMode
  minLen : UInt64
  maxLen : UInt64
  tweakAad : String
  kid : String
  deriving DecidableEq, Repr

/-- A prepared FF1 cipher. -/
structure Ff1Cipher where
  key : List UInt8
  radix : Nat
  deriving DecidableEq, Repr

/-- The maps and sets of characters are lists: a later pair of the index is in front. -/
structure FpeProfile where
  name : String
  fpeVersion : String
  alphabet : String
  minLen : UInt64
  maxLen : UInt64
  tweakAad : String
  kid : String
  alphabetChars : List Char
  alphabetIndex : List (Char × UInt16)
  cipher : Option Ff1Cipher
  parentKey : Option (List UInt8)
  subjectMode : SubjectMode
  preserveCharacters : String
  preserved : List Char
  authenticated : Bool
  authKey : Option (List UInt8)
  deriving DecidableEq, Repr

structure FpeKeyDerivationRequest where
  kid : String
  profileName : String
  fpeVersion : String

/-! ## Alphabets -/

def upper : String := "ABCDEFGHIJKLMNOPQRSTUVWXYZ"

def lower : String := "abcdefghijklmnopqrstuvwxyz"

def letters : LetterCase → String
  | .uppercase => upper
  | .lowercase => lower
  | .mixed => upper ++ lower

def alphabetValidationError (message alphabet : String) : DynError :=
  .invalidInput (if alphabet = "num" then
      message ++ "; alphabet \"num\" is literal; for the preset use alphabet_preset: \"num\""
    else if alphabet = "alpha" then
      message ++ "; alphabet \"alpha\" is literal; for the preset use alphabet_preset: \"alpha\" with letter_case"
    else if alphabet = "alphanum" then
      message ++ "; alphabet \"alphanum\" is literal; for the preset use alphabet_preset: \"alphanum\" with letter_case"
    else message)

/-- The loop over the alphabet, with the characters seen so far. -/
def rejectDuplicates (alphabet : String) : List Char → List Char → Res (List Char)
  | seen, [] => .ok seen
  | seen, item :: items =>
    if item ∈ seen then
      .error (alphabetValidationError "fpe_profiles.alphabet must not contain duplicate characters" alphabet)
    else rejectDuplicates alphabet (item :: seen) items

def validateFpeAlphabet (alphabet : String) : Res Nat := do
  validateTextField "fpe_profiles.alphabet" alphabet
  let seen ← rejectDuplicates alphabet [] alphabet.toList
  let radix := seen.length
  if 2 ≤ radix ∧ radix ≤ 2 ^ 16 then .ok radix
  else .error (.invalidInput "fpe_profiles.alphabet length must be between 2 and 65536")

def selectFpeAlphabet : Option String → Option AlphabetPreset → Option LetterCase → Res String
  | some alphabet, none, none => .ok alphabet
  | none, some .num, none => .ok "0123456789"
  | none, some .alpha, some case_ => .ok (letters case_)
  | none, some .alphanum, some case_ => .ok ("0123456789" ++ letters case_)
  | some _, some _, _ | none, none, _ =>
    .error (.invalidInput "fpe_profiles requires exactly one of alphabet or alphabet_preset")
  | _, _, _ => .error (.invalidInput
      "fpe_profiles.letter_case is required for alpha/alphanum and prohibited for num/custom")

def resolveFpeAlphabet (alphabet : Option String) (preset : Option AlphabetPreset) (case_ : Option LetterCase) :
    Res String := do
  let resolved ← selectFpeAlphabet alphabet preset case_
  let _ ← validateFpeAlphabet resolved
  .ok resolved

/-- The loop over the preserved characters; the bound is checked after each insertion. -/
def validatePreserveItems : List Char → List Char → Res Unit
  | _, [] => .ok ()
  | seen, ch :: chars =>
    if isControl ch || ch ∈ seen then
      .error (.invalidInput "fpe_profiles.preserve_characters must contain distinct characters without controls")
    else if (ch :: seen).length > fpePreserveMaxChars then
      .error (.invalidInput ("fpe_profiles.preserve_characters exceeds maximum allowed length: " ++
        toString fpePreserveMaxChars))
    else validatePreserveItems (ch :: seen) chars

def validatePreserveCharacters (value : String) : Res Unit := validatePreserveItems [] value.toList

def validatePreservedCharacters (alphabet value : String) : Res (List Char) := do
  validatePreserveCharacters value
  if alphabet.toList.any (· ∈ value.toList) then
    .error (.invalidInput "fpe_profiles.preserve_characters overlaps the alphabet")
  else .ok value.toList

def prepareIndex : Nat → List (Char × UInt16) → List Char → Res (List (Char × UInt16))
  | _, index, [] => .ok index
  | position, index, item :: items =>
    if position < 2 ^ 16 then prepareIndex (position + 1) ((item, UInt16.ofNat position) :: index) items
    else .error (.internal "fpe alphabet index is invalid")

def prepareFpeAlphabet (alphabet : String) : Res (List Char × List (Char × UInt16)) := do
  let alphabetIndex ← prepareIndex 0 [] alphabet.toList
  .ok (alphabet.toList, alphabetIndex)

/-! ## Lengths -/

/-- The product saturates, and the loop stops when it is large enough. -/
def domainLoop (radix : Nat) : Nat → Nat → Bool
  | 0, _ => false
  | n + 1, domain =>
    if min (domain * radix) (2 ^ 64 - 1) ≥ 1000000 then true else domainLoop radix n (min (domain * radix) (2 ^ 64 - 1))

def fpeDomainIsLargeEnough (radix minLen : Nat) : Bool := domainLoop radix minLen 1

def validateFpeMinLen (minLen : Nat) : Res Unit :=
  if minLen < fpeValueMinLen then
    .error (.invalidInput ("fpe_profiles.min_len must be at least " ++ toString fpeValueMinLen))
  else .ok ()

def validateFpeMaxLen (maxLen : Nat) : Res Unit :=
  if maxLen > fpeValueMaxLen then .error (.invalidInput "fpe_profiles.max_len exceeds maximum allowed value")
    else .ok ()

def validateFpeLengthBounds (minLen maxLen : Nat) : Res Unit := do
  validateFpeMinLen minLen
  validateFpeMaxLen maxLen
  if maxLen < minLen then
    .error (.invalidInput "fpe_profiles.max_len must be greater than or equal to min_len")
  else .ok ()

def validateProfileLengths (minLen maxLen radix : Nat) (alphabet : String) : Res Unit := do
  validateFpeLengthBounds minLen maxLen
  if fpeDomainIsLargeEnough radix minLen then .ok ()
  else .error (alphabetValidationError "fpe profile domain is too small for FF1" alphabet)

/-! ## Validation -/

def validateFpeVersion (value : String) : Res Unit :=
  validateAllowedValue "fpe_profiles.fpe_version" value [fpeVersionFf12025]

def validateFpeProfileFields (name fpeVersion alphabet : String) (minLen maxLen : Nat) (tweakAad : String) :
    Res Nat := do
  validateAadConfigName "fpe_profiles.name" name
  validateFpeVersion fpeVersion
  let radix ← validateFpeAlphabet alphabet
  validateProfileLengths minLen maxLen radix alphabet
  validateLabels "fpe_profiles.tweak_aad" tweakAad fpeTweakAadMaxChars
  .ok radix

/-- `FF1::new` refuses some radixes; the message is the text of its error. -/
abbrev NewFf1 := List UInt8 → Nat → Except String Unit

def buildFpeCipher (newFf1 : NewFf1) (fpeKey : List UInt8) (radix : Nat) : Res Ff1Cipher :=
  if radix < 2 ^ 32 then
    match newFf1 fpeKey radix with
    | .ok () => .ok ⟨fpeKey, radix⟩
    | .error err => .error (.invalidInput ("fpe profile is invalid: " ++ err))
  else .error (.invalidInput "fpe profile radix is invalid")

/-- What the section needs of the node. -/
structure FpeHooks where
  isLoadedKid : String → Bool
  deriveFpeKey : FpeKeyDerivationRequest → Res (List UInt8)
  deriveFpeAuthKey : FpeKeyDerivationRequest → Res (List UInt8)

def FpeProfileInput.request (profile : FpeProfileInput) : FpeKeyDerivationRequest :=
  ⟨profile.kid, profile.name, profile.fpeVersion⟩

/-- The cipher of profiles without subjects, and the parent key of the others. -/
def prepareKeys (newFf1 : NewFf1) (subjectMode : SubjectMode) (fpeKey : List UInt8) (radix : Nat) :
    Res (Option Ff1Cipher × Option (List UInt8)) :=
  match subjectMode with
  | .none => (buildFpeCipher newFf1 fpeKey radix).map fun cipher => (some cipher, none)
  | .stored => .ok (none, some fpeKey)

def deriveAuthKey (hooks : FpeHooks) (profile : FpeProfileInput) : Res (Option (List UInt8)) :=
  if profile.authenticated then do
    let key ← hooks.deriveFpeAuthKey profile.request
    if key.length ≠ fpeAuthKeySizeBytes then .error (.internal "derived fpe authentication key has invalid length")
    else .ok (some key)
  else .ok none

/-- One round of the loop over the profiles. -/
def validateFpeProfile (newFf1 : NewFf1) (hooks : FpeHooks) (seenNames : List String) (profile : FpeProfileInput) :
    Res FpeProfile := do
  let alphabet ← resolveFpeAlphabet profile.alphabet profile.alphabetPreset profile.letterCase
  let preserveCharacters := profile.preserveCharacters.getD ""
  let preserved ← validatePreservedCharacters alphabet preserveCharacters
  let _ ← validateFpeProfileFields profile.name profile.fpeVersion alphabet profile.minLen.toNat profile.maxLen.toNat
    profile.tweakAad
  validateProfileKid "fpe" hooks.isLoadedKid profile.kid
  rejectDuplicatedName "fpe" seenNames profile.name
  let fpeKey ← hooks.deriveFpeKey profile.request
  if fpeKey.length ≠ fpeKeySizeBytes then .error (.internal "derived fpe key has invalid length")
  else
    let (alphabetChars, alphabetIndex) ← prepareFpeAlphabet alphabet
    let (cipher, parentKey) ← prepareKeys newFf1 profile.subjectMode fpeKey alphabetChars.length
    let authKey ← deriveAuthKey hooks profile
    .ok { name := profile.name, fpeVersion := profile.fpeVersion, alphabet, minLen := profile.minLen,
          maxLen := profile.maxLen, tweakAad := profile.tweakAad, kid := profile.kid, alphabetChars, alphabetIndex,
          cipher,
          parentKey, subjectMode := profile.subjectMode, preserveCharacters, preserved,
          authenticated := profile.authenticated, authKey }

def validateFpeProfiles (newFf1 : NewFf1) (hooks : FpeHooks) (profileInputs : List FpeProfileInput) :
    Res (ProfilesState FpeProfile) := do
  let profiles ← Loop.collect (validateFpeProfile newFf1 hooks) FpeProfileInput.name [] profileInputs
  .ok (.fromProfiles FpeProfile.name profiles)

/-! ## Keys of profiles -/

def deriveFpeKeyForProfile (hkdf : Hkdf) (opsSymmetricKeyHex : String) (request : FpeKeyDerivationRequest) :
    Res (List UInt8) := do
  let opsSymmetricKey ← hexDecode opsSymmetricKeyHex
  let info ← buildValidatedAad [("profile", request.profileName), ("kid", request.kid),
    ("fpe_version", request.fpeVersion)]
  hkdf opsSymmetricKey fpeKeySalt (bytesOf info) fpeKeySizeBytes

def deriveFpeAuthKeyForProfile (hkdf : Hkdf) (source : String) (request : FpeKeyDerivationRequest) :
    Res (List UInt8) := do
  let source ← hexDecode source
  let info ← buildValidatedAad [("purpose", "fpe-auth"), ("profile", request.profileName), ("kid", request.kid),
    ("fpe_version", request.fpeVersion), ("auth_version", fpeAuthVersion)]
  hkdf source fpeAuthKeySalt (bytesOf info) fpeAuthKeySizeBytes

/-! ## Accepted profiles -/

theorem rejectDuplicates_ok {alphabet : String} : ∀ {items seen out : List Char}, rejectDuplicates alphabet seen items =
    .ok out →
    seen.Nodup → (items.reverse ++ seen).Nodup ∧ out = items.reverse ++ seen
  | [], seen, out, h, hseen => by
    cases h
    exact ⟨hseen, rfl⟩
  | item :: items, seen, out, h, hseen => by
    rw [rejectDuplicates, Loop.guard_eq_ok] at h
    rw [List.reverse_cons, List.append_assoc, List.singleton_append]
    exact rejectDuplicates_ok h.2 (List.nodup_cons.mpr ⟨h.1, hseen⟩)

theorem validateFpeAlphabet_ok {alphabet : String} {radix : Nat} (h : validateFpeAlphabet alphabet = .ok radix) :
    (alphabet.toList.all isWhitespace = false ∧ alphabet.toList.any isControl = false) ∧ alphabet.toList.Nodup ∧
      alphabet.toList.length = radix ∧ 2 ≤ radix ∧ radix ≤ 2 ^ 16 := by
  rw [validateFpeAlphabet, Loop.bind_unit_eq_ok, validateTextField_ok_iff] at h
  obtain ⟨htext, h⟩ := h
  obtain ⟨seen, hseen, h⟩ := Loop.bind_eq_ok.mp h
  obtain ⟨hradix, h⟩ := Loop.check_eq_ok.mp h
  obtain ⟨hnodup, rfl⟩ := rejectDuplicates_ok hseen List.nodup_nil
  rw [List.append_nil, List.nodup_reverse] at hnodup
  cases h
  refine ⟨htext, hnodup, ?_, hradix⟩
  simp

/-- The index maps each character of the alphabet to its position. -/
theorem prepareIndex_lookup {c : Char} : ∀ {items : List Char} {position : Nat} {index out : List (Char × UInt16)},
    items.Nodup → prepareIndex position index items = .ok out →
    out.lookup c = if c ∈ items then some (UInt16.ofNat (position + items.idxOf c)) else index.lookup c
  | [], position, index, out, _, h => by
    cases h
    simp
  | item :: items, position, index, out, hnodup, h => by
    obtain ⟨hnot, hnodup⟩ := List.nodup_cons.mp hnodup
    rw [prepareIndex, Loop.check_eq_ok] at h
    rw [prepareIndex_lookup hnodup h.2]
    by_cases hc : c = item
    · subst hc
      simp [hnot]
    · have hbeq : (c == item) = false := by simpa using hc
      have hidx : (item :: items).idxOf c = items.idxOf c + 1 := List.idxOf_cons_ne _ (Ne.symm hc)
      rw [List.lookup_cons, hbeq, hidx, Nat.add_right_comm, Nat.add_assoc]
      simp [hc]

/-- The index of a prepared alphabet and the alphabet are inverse to each other. -/
theorem lookup_index {alphabet : String} {chars : List Char} {index : List (Char × UInt16)}
    (hnodup : alphabet.toList.Nodup) (hsize : alphabet.toList.length ≤ 2 ^ 16)
    (h : prepareFpeAlphabet alphabet = .ok (chars, index)) (c : Char) (d : UInt16) :
    index.lookup c = some d ↔ chars[d.toNat]? = some c := by
  obtain ⟨index', hindex, h⟩ := Loop.bind_eq_ok.mp h
  cases h
  rw [prepareIndex_lookup hnodup hindex, Nat.zero_add]
  constructor
  · intro h
    obtain ⟨hmem, rfl⟩ : c ∈ alphabet.toList ∧ UInt16.ofNat (alphabet.toList.idxOf c) = d := by simpa using h
    have hlt := List.idxOf_lt_length_of_mem hmem
    rw [UInt16.toNat_ofNat_of_lt' (Nat.lt_of_lt_of_le hlt hsize), List.getElem?_eq_getElem hlt, List.getElem_idxOf hlt]
  · intro h
    obtain ⟨hlt, hget⟩ := List.getElem?_eq_some_iff.mp h
    have hmem : c ∈ alphabet.toList := List.mem_of_getElem? h
    have hidx : alphabet.toList.idxOf c = d.toNat := by
      rw [← hget]
      exact List.Nodup.idxOf_getElem hnodup _ hlt
    rw [if_pos hmem, hidx, UInt16.ofNat_toNat]

theorem validatePreserveItems_ok : ∀ {chars seen : List Char}, validatePreserveItems seen chars = .ok () →
    chars.any isControl = false
  | [], _, _ => rfl
  | ch :: chars, seen, h => by
    rw [validatePreserveItems, Loop.guard_eq_ok, Loop.guard_eq_ok] at h
    obtain ⟨hch, -, h⟩ := h
    have hcontrol : isControl ch = false := by
      simp only [Bool.or_eq_true, not_or, Bool.not_eq_true] at hch
      exact hch.1
    rw [List.any_cons, hcontrol, validatePreserveItems_ok h]
    rfl

/-- What holds of an accepted profile. -/
structure ProfileOk (profile : FpeProfile) : Prop where
  chars : profile.alphabetChars = profile.alphabet.toList
  index : ∀ c d, profile.alphabetIndex.lookup c = some d ↔ profile.alphabetChars[d.toNat]? = some c
  size : profile.alphabetChars.length ≤ 2 ^ 16
  maxLen : profile.maxLen.toNat ≤ fpeValueMaxLen
  visible : profile.alphabetChars.all isWhitespace = false
  printable : profile.alphabetChars.any isControl = false ∧ profile.preserved.any isControl = false
  disjoint : ∀ c ∈ profile.alphabetChars, c ∉ profile.preserved
  radix : ∀ cipher, profile.cipher = some cipher → cipher.radix = profile.alphabetChars.length
  mode : profile.subjectMode = .none ↔ profile.cipher.isSome = true

theorem buildFpeCipher_radix {newFf1 : NewFf1} {fpeKey : List UInt8} {radix : Nat} {cipher : Ff1Cipher}
    (h : buildFpeCipher newFf1 fpeKey radix = .ok cipher) : cipher.radix = radix := by
  obtain ⟨-, h⟩ := Loop.check_eq_ok.mp h
  split at h
  · cases h
    rfl
  · cases h

theorem prepareKeys_ok {newFf1 : NewFf1} {subjectMode : SubjectMode} {fpeKey : List UInt8} {radix : Nat}
    {keys : Option Ff1Cipher × Option (List UInt8)} (h : prepareKeys newFf1 subjectMode fpeKey radix = .ok keys) :
    (∀ cipher, keys.1 = some cipher → cipher.radix = radix) ∧ (subjectMode = .none ↔ keys.1.isSome = true) := by
  cases subjectMode with
  | none =>
    obtain ⟨cipher, hcipher, rfl⟩ := Loop.map_eq_ok.mp h
    refine ⟨?_, by simp⟩
    rintro cipher' ⟨⟩
    exact buildFpeCipher_radix hcipher
  | stored =>
    cases h
    exact ⟨by simp, by simp⟩

theorem maxLen_of_fields {name fpeVersion alphabet tweakAad : String} {minLen maxLen radix : Nat}
    (h : validateFpeProfileFields name fpeVersion alphabet minLen maxLen tweakAad = .ok radix) :
    maxLen ≤ fpeValueMaxLen := by
  obtain ⟨-, h⟩ := Loop.bind_unit_eq_ok.mp h
  obtain ⟨-, h⟩ := Loop.bind_unit_eq_ok.mp h
  obtain ⟨radix', -, h⟩ := Loop.bind_eq_ok.mp h
  obtain ⟨hlengths, -⟩ := Loop.bind_unit_eq_ok.mp h
  obtain ⟨hbounds, -⟩ := Loop.bind_unit_eq_ok.mp hlengths
  obtain ⟨-, hbounds⟩ := Loop.bind_unit_eq_ok.mp hbounds
  obtain ⟨hmax, -⟩ := Loop.bind_unit_eq_ok.mp hbounds
  obtain ⟨hle, -⟩ := Loop.guard_eq_ok.mp hmax
  exact Nat.le_of_not_lt hle

theorem profileOk_of_round {newFf1 : NewFf1} {hooks : FpeHooks} {seenNames : List String} {input : FpeProfileInput}
    {profile : FpeProfile} (h : validateFpeProfile newFf1 hooks seenNames input = .ok profile) : ProfileOk profile := by
  obtain ⟨alphabet, halphabet, h⟩ := Loop.bind_eq_ok.mp h
  obtain ⟨preserved, hpreserved, h⟩ := Loop.bind_eq_ok.mp h
  obtain ⟨fieldsRadix, hfields, h⟩ := Loop.bind_eq_ok.mp h
  obtain ⟨-, h⟩ := Loop.bind_unit_eq_ok.mp h
  obtain ⟨-, h⟩ := Loop.bind_unit_eq_ok.mp h
  obtain ⟨fpeKey, -, h⟩ := Loop.bind_eq_ok.mp h
  obtain ⟨-, h⟩ := Loop.guard_eq_ok.mp h
  obtain ⟨⟨chars, index⟩, hprepare, h⟩ := Loop.bind_eq_ok.mp h
  obtain ⟨keys, hkeys, h⟩ := Loop.bind_eq_ok.mp h
  obtain ⟨authKey, -, h⟩ := Loop.bind_eq_ok.mp h
  cases h
  obtain ⟨resolved, -, halphabet⟩ := Loop.bind_eq_ok.mp halphabet
  obtain ⟨radix, hradix, halphabet⟩ := Loop.bind_eq_ok.mp halphabet
  cases halphabet
  obtain ⟨⟨hvisible, hprintable⟩, hnodup, hlength, -, hsize⟩ := validateFpeAlphabet_ok hradix
  obtain ⟨hpreserve, hpreserved⟩ := Loop.bind_unit_eq_ok.mp hpreserved
  obtain ⟨hdisjoint, hpreserved⟩ := Loop.guard_eq_ok.mp hpreserved
  cases hpreserved
  have hchars : chars = alphabet.toList := by
    obtain ⟨index', -, hprepare⟩ := Loop.bind_eq_ok.mp hprepare
    cases hprepare
    rfl
  have hindex := lookup_index hnodup (by omega) hprepare
  subst hchars
  obtain ⟨hradixOf, hmode⟩ := prepareKeys_ok hkeys
  have hpreservedPrintable := validatePreserveItems_ok hpreserve
  exact ⟨rfl, hindex, Nat.le_trans (Nat.le_of_eq hlength) hsize, maxLen_of_fields hfields, hvisible,
    ⟨hprintable, hpreservedPrintable⟩, by simpa using hdisjoint, hradixOf, hmode⟩

theorem profileOk_of_validate {newFf1 : NewFf1} {hooks : FpeHooks} {inputs : List FpeProfileInput}
    {state : ProfilesState FpeProfile} (h : validateFpeProfiles newFf1 hooks inputs = .ok state) :
    ∀ profile ∈ state.profiles, ProfileOk profile := by
  obtain ⟨profiles, hprofiles, h⟩ := Loop.bind_eq_ok.mp h
  cases h
  intro profile hmem
  obtain ⟨input, -, seenNames, hround⟩ := Loop.mem_collect hprofiles profile hmem
  exact profileOk_of_round hround

end Vectis.Core.Fpe

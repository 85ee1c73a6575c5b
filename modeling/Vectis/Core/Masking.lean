import Vectis.Core.Profiles

/-!
# Masking

`core/masking.rs`: profiles that show the first and the last characters of a plaintext and replace the rest by a mask
character. `usize` is `UInt64`, with the wrapping operations of a release build; the profile checks keep them exact.

- `Bounded`: what the checks of a profile establish;
- `mask_ok`: the output on an accepted plaintext, as lists of characters;
- `masking_hides`: what the output shows and what it depends on.
-/

namespace Vectis.Core.Masking

open Validation Profiles Vectis.Ops.Keys

/-- `MASKING_PLAINTEXT_MAX_LEN`. -/
def maskingPlaintextMaxLen : UInt64 := 1024

/-- `MaskingProfileInput`; an accepted input is the profile. -/
structure MaskingProfile where
  name : String
  kid : String
  visibleFirst : UInt64
  visibleLast : UInt64
  maskChar : String
  minLen : UInt64
  maxLen : UInt64
  deriving DecidableEq, Repr

/-! ## Validation of profiles -/

def validateMaskChar (value : String) : Res Unit := do
  validateTextField "masking_profiles.mask_char" value
  if value.length ≠ 1 then .error (.invalidInput "masking_profiles.mask_char must be exactly one character")
  else .ok ()

def validateMaskingLengths (visibleFirst visibleLast minLen maxLen : UInt64) : Res Unit :=
  if minLen < 1 then .error (.invalidInput "masking_profiles.min_len must be at least 1")
  else if maxLen > maskingPlaintextMaxLen then
    .error (.invalidInput "masking_profiles.max_len exceeds maximum allowed value")
  else if maxLen < minLen then
    .error (.invalidInput "masking_profiles.max_len must be greater than or equal to min_len")
  else if visibleFirst > maxLen ∨ visibleLast > maxLen then
    .error (.invalidInput "masking_profiles.visible_first and visible_last must not exceed max_len")
  else if visibleFirst + visibleLast ≥ minLen then
    .error (.invalidInput "masking_profiles.visible_first plus visible_last must be less than min_len")
  else .ok ()

def validateMaskingProfileFields (name kid : String) (visibleFirst visibleLast : UInt64) (maskChar : String)
    (minLen maxLen : UInt64) : Res Unit := do
  validateAadConfigName "masking_profiles.name" name
  (validateKeyId kid).mapError fun err => .invalidInput ("masking_profiles.kid is invalid: " ++ err.toText)
  validateMaskChar maskChar
  validateMaskingLengths visibleFirst visibleLast minLen maxLen

/-- One round of the loop over the profiles. -/
def validateMaskingProfile (isLoadedKid : String → Bool) (seenNames : List String) (profile : MaskingProfile) :
    Res MaskingProfile := do
  validateMaskingProfileFields profile.name profile.kid profile.visibleFirst profile.visibleLast profile.maskChar
    profile.minLen profile.maxLen
  if !isLoadedKid profile.kid then
    .error (.invalidInput ("masking profile references kid not loaded in memory: " ++ profile.kid))
  else do
    rejectDuplicatedName "masking" seenNames profile.name
    .ok profile

def validateMaskingProfiles (isLoadedKid : String → Bool) (profileInputs : List MaskingProfile) :
    Res (ProfilesState MaskingProfile) := do
  let profiles ← Loop.collect (validateMaskingProfile isLoadedKid) MaskingProfile.name [] profileInputs
  .ok (.fromProfiles MaskingProfile.name profiles)

/-! ## Masking -/

def validatePlaintextForProfile (profile : MaskingProfile) (plaintext : String) : Res Unit := do
  validateTextField "plaintext" plaintext
  if plaintext.length < profile.minLen.toNat ∨ plaintext.length > profile.maxLen.toNat then
    .error (.invalidInput "plaintext length is outside masking profile bounds")
  else .ok ()

def mask (profile : MaskingProfile) (plaintext : String) : Res String := do
  validatePlaintextForProfile profile plaintext
  let chars := plaintext.toList
  let len := UInt64.ofNat chars.length
  let first := chars.take profile.visibleFirst.toNat
  let last := chars.drop (len - profile.visibleLast).toNat
  let hiddenLen := len - profile.visibleFirst - profile.visibleLast
  let masked := (List.replicate hiddenLen.toNat profile.maskChar.toList).flatten
  .ok (String.ofList (first ++ masked ++ last))

/-! ## What the checks establish -/

/-- The mask character is one character, and the visible parts leave something of every plaintext. -/
structure Bounded (profile : MaskingProfile) (c : Char) : Prop where
  maskChar : profile.maskChar.toList = [c]
  visible : profile.visibleFirst.toNat + profile.visibleLast.toNat < profile.minLen.toNat

/-- The sum that is compared does not wrap: both parts were compared with `max_len` before. -/
theorem validateMaskingLengths_ok {visibleFirst visibleLast minLen maxLen : UInt64}
    (h : validateMaskingLengths visibleFirst visibleLast minLen maxLen = .ok ()) :
    visibleFirst.toNat + visibleLast.toNat < minLen.toNat := by
  unfold validateMaskingLengths at h
  simp only [Loop.guard_eq_ok, not_or, gt_iff_lt, ge_iff_le, UInt64.lt_iff_toNat_lt, UInt64.le_iff_toNat_le,
    UInt64.toNat_add] at h
  have hmax : maskingPlaintextMaxLen.toNat = 1024 := rfl
  omega

theorem validateMaskChar_ok {value : String} (h : validateMaskChar value = .ok ()) : ∃ c, value.toList = [c] := by
  obtain ⟨-, h⟩ := Loop.bind_unit_eq_ok.mp h
  obtain ⟨hlength, -⟩ := Loop.guard_eq_ok.mp h
  rw [ne_eq, Decidable.not_not, ← String.length_toList] at hlength
  exact List.length_eq_one_iff.mp hlength

theorem bounded_of_accepted {isLoadedKid : String → Bool} {profileInputs : List MaskingProfile}
    {state : ProfilesState MaskingProfile} {profile : MaskingProfile}
    (h : validateMaskingProfiles isLoadedKid profileInputs = .ok state) (hp : profile ∈ state.profiles) :
    ∃ c, Bounded profile c := by
  obtain ⟨profiles, hprofiles, h⟩ := Loop.bind_eq_ok.mp h
  cases h
  obtain ⟨input, -, seen, hinput⟩ := Loop.mem_collect hprofiles profile hp
  obtain ⟨hfields, h⟩ := Loop.bind_unit_eq_ok.mp hinput
  obtain ⟨-, h⟩ := Loop.guard_eq_ok.mp h
  obtain ⟨-, h⟩ := Loop.bind_unit_eq_ok.mp h
  cases h
  obtain ⟨-, hfields⟩ := Loop.bind_unit_eq_ok.mp hfields
  obtain ⟨-, hfields⟩ := Loop.bind_unit_eq_ok.mp hfields
  obtain ⟨hchar, hlengths⟩ := Loop.bind_unit_eq_ok.mp hfields
  obtain ⟨c, hc⟩ := validateMaskChar_ok hchar
  exact ⟨c, hc, validateMaskingLengths_ok hlengths⟩

/-! ## What is shown -/

variable {profile : MaskingProfile} {c : Char} {plaintext : String}

theorem validatePlaintextForProfile_ok (h : validatePlaintextForProfile profile plaintext = .ok ()) :
    profile.minLen.toNat ≤ plaintext.toList.length ∧ plaintext.toList.length ≤ profile.maxLen.toNat := by
  obtain ⟨-, h⟩ := Loop.bind_unit_eq_ok.mp h
  obtain ⟨hlength, -⟩ := Loop.guard_eq_ok.mp h
  rw [String.length_toList]
  omega

/-- No subtraction of `mask` wraps: the output is the visible parts around the mask characters. -/
theorem mask_ok (hb : Bounded profile c) (h : validatePlaintextForProfile profile plaintext = .ok ()) :
    mask profile plaintext = .ok (String.ofList (plaintext.toList.take profile.visibleFirst.toNat ++
      List.replicate (plaintext.toList.length - profile.visibleFirst.toNat - profile.visibleLast.toNat) c ++
      plaintext.toList.drop (plaintext.toList.length - profile.visibleLast.toNat))) := by
  obtain ⟨hmin, hmax⟩ := validatePlaintextForProfile_ok h
  have hvisible := hb.visible
  have hlen : (UInt64.ofNat plaintext.toList.length).toNat = plaintext.toList.length :=
    UInt64.toNat_ofNat_of_lt' (Nat.lt_of_le_of_lt hmax profile.maxLen.toNat_lt)
  have hlast : (UInt64.ofNat plaintext.toList.length - profile.visibleLast).toNat =
      plaintext.toList.length - profile.visibleLast.toNat := by
    rw [UInt64.toNat_sub_of_le _ _ (UInt64.le_iff_toNat_le.mpr (by omega)), hlen]
  have hfirst : (UInt64.ofNat plaintext.toList.length - profile.visibleFirst).toNat =
      plaintext.toList.length - profile.visibleFirst.toNat := by
    rw [UInt64.toNat_sub_of_le _ _ (UInt64.le_iff_toNat_le.mpr (by omega)), hlen]
  have hhidden : (UInt64.ofNat plaintext.toList.length - profile.visibleFirst - profile.visibleLast).toNat =
      plaintext.toList.length - profile.visibleFirst.toNat - profile.visibleLast.toNat := by
    rw [UInt64.toNat_sub_of_le _ _ (UInt64.le_iff_toNat_le.mpr (by omega)), hfirst]
  refine Loop.bind_unit_eq_ok.mpr ⟨h, ?_⟩
  simp only [hlast, hhidden, hb.maskChar, List.flatten_replicate_singleton]

/-- The characters of the visible parts around the mask characters. -/
theorem masked_getElem? {chars : List Char} {first last : Nat} (h : first + last < chars.length) (i : Nat) :
    (chars.take first ++ List.replicate (chars.length - first - last) c ++ chars.drop (chars.length - last))[i]? =
      if first ≤ i ∧ i < chars.length - last then some c else chars[i]? := by
  have htake : (chars.take first).length = first := by
    rw [List.length_take]
    omega
  rw [List.append_assoc, List.getElem?_append, htake]
  split
  · rename_i hi
    rw [if_neg (by omega), List.getElem?_take_of_lt hi]
  · rename_i hi
    rw [List.getElem?_append, List.length_replicate]
    split
    · rename_i hmid
      rw [if_pos (by omega), List.getElem?_replicate_of_lt hmid]
    · rename_i hmid
      rw [if_neg (by omega), List.getElem?_drop]
      congr 1
      omega

/-- Every accepted profile masks every accepted plaintext: nothing underflows, the output has the length of the
plaintext, shows its first and its last characters and the mask character at every other place, of which there is one,
and depends on nothing else. -/
theorem masking_hides (isLoadedKid : String → Bool) (profileInputs : List MaskingProfile)
    (state : ProfilesState MaskingProfile) (hs : validateMaskingProfiles isLoadedKid profileInputs = .ok state)
    (profile : MaskingProfile) (hp : profile ∈ state.profiles) (plaintext : String)
    (hv : validatePlaintextForProfile profile plaintext = .ok ()) :
    profile.visibleFirst.toNat + profile.visibleLast.toNat < plaintext.length ∧
    ∃ c output, profile.maskChar = String.singleton c ∧ mask profile plaintext = .ok output ∧
      output.length = plaintext.length ∧
      (∀ i < plaintext.length, i < profile.visibleFirst.toNat ∨ plaintext.length - profile.visibleLast.toNat ≤ i →
        output.toList[i]? = plaintext.toList[i]?) ∧
      (∀ i, profile.visibleFirst.toNat ≤ i → i < plaintext.length - profile.visibleLast.toNat →
        output.toList[i]? = some c) ∧
      ∀ other, validatePlaintextForProfile profile other = .ok () → other.length = plaintext.length →
        other.toList.take profile.visibleFirst.toNat = plaintext.toList.take profile.visibleFirst.toNat →
        other.toList.drop (other.length - profile.visibleLast.toNat) =
          plaintext.toList.drop (plaintext.length - profile.visibleLast.toNat) →
        mask profile other = .ok output := by
  obtain ⟨c, hb⟩ := bounded_of_accepted hs hp
  have hvisible := hb.visible
  obtain ⟨hmin, -⟩ := validatePlaintextForProfile_ok hv
  have hroom : profile.visibleFirst.toNat + profile.visibleLast.toNat < plaintext.toList.length := by omega
  simp only [← String.length_toList]
  refine ⟨hroom, c, _, ?_, mask_ok hb hv, ?_, fun i hi hout => ?_, fun i hfirst hlast => ?_,
    fun other hv' hlen hfirst hlast => ?_⟩
  · rw [← String.ofList_toList (s := profile.maskChar), hb.maskChar]
    rfl
  · simp only [String.toList_ofList, List.length_append, List.length_take, List.length_replicate, List.length_drop]
    omega
  · rw [String.toList_ofList, masked_getElem? hroom, if_neg (by omega)]
  · rw [String.toList_ofList, masked_getElem? hroom, if_pos ⟨hfirst, hlast⟩]
  · rw [mask_ok hb hv', hfirst, hlast, hlen]

/-- A profile that shows two characters at each end. -/
def exampleProfile : MaskingProfile :=
  ⟨"card", String.ofList (List.replicate 64 'a'), 2, 2, "•", 5, 8⟩

/-- Two plaintexts that differ in the middle only. -/
theorem masking_hides_example :
    validateMaskingProfiles (fun _ => true) [exampleProfile] =
    .ok (.fromProfiles MaskingProfile.name [exampleProfile]) ∧
    validatePlaintextForProfile exampleProfile "ab123é" = .ok () ∧ mask exampleProfile "ab123é" = .ok "ab••3é" ∧
    mask exampleProfile "abxy3é" = .ok "ab••3é" := by
  have hs : validateMaskingProfiles (fun _ => true) [exampleProfile] =
      .ok (.fromProfiles MaskingProfile.name [exampleProfile]) := by decide
  have hv : validatePlaintextForProfile exampleProfile "ab123é" = .ok () := by decide
  have hmask : mask exampleProfile "ab123é" = .ok "ab••3é" := by decide
  obtain ⟨-, c, output, -, hout, -, -, -, hother⟩ :=
    masking_hides (fun _ => true) [exampleProfile] _ hs exampleProfile List.mem_cons_self "ab123é" hv
  have hagree := hother "abxy3é" (by decide) (by decide) (by decide) (by decide)
  rw [hout] at hmask
  exact ⟨hs, hv, hout.trans hmask, hagree.trans hmask⟩

end Vectis.Core.Masking

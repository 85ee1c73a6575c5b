import Mathlib.Data.List.Forall2
import Vectis.Core.Fpe.Transform

/-!
# Format-preserving encryption keeps the format

FF1 is used inside its domain: digits below the radix, and at least a million digit strings of the length
(`one_million_le_of_domain`). There it returns as many digits, each below the radix (`Ff1.KeepsFormat`), and the second
walk of `fpe_transform` puts them where the first one took the digits (`Laid.format`, `Laid.indexes`).

- `fpeTransform_keeps_format`: every accepted value of a validated profile is transformed to a text of the same format,
  whose alphabet indexes are the output of FF1.
-/

namespace Vectis.Core.Fpe

open Validation Profiles Ops.Keys

/-! ## The domain of FF1 -/

/-- The digit strings FF1 is defined on. -/
structure InDomain (cipher : Ff1Cipher) (digits : List UInt16) : Prop where
  radix : cipher.radix ≤ 2 ^ 16
  valid : ∀ d ∈ digits, d.toNat < cipher.radix
  size : 1000000 ≤ cipher.radix ^ digits.length
  length : digits.length < 2 ^ 32

/-- Inside its domain FF1 returns as many digits as it was given, each below the radix. -/
def Ff1.KeepsFormat (ff1 : Ff1) : Prop := ∀ encrypt cipher tweak digits, InDomain cipher digits →
  ∃ output, ff1.run encrypt cipher tweak digits = .ok output ∧ output.length = digits.length ∧
    ∀ d ∈ output, d.toNat < cipher.radix

theorem domainLoop_le {radix : Nat} (hradix : 0 < radix) : ∀ {n domain : Nat}, domainLoop radix n domain = true →
    1000000 ≤ domain * radix ^ n
  | 0, _, h => by cases h
  | n + 1, domain, h => by
    have hpow : domain * radix ^ (n + 1) = domain * radix * radix ^ n := by
      rw [Nat.pow_succ, Nat.mul_comm (radix ^ n), Nat.mul_assoc]
    rw [hpow]
    rw [domainLoop] at h
    split at h
    · rename_i hlarge
      calc 1000000 ≤ domain * radix := by omega
        _ ≤ domain * radix * radix ^ n := Nat.le_mul_of_pos_right _ (Nat.pow_pos hradix)
    · rename_i hsmall
      -- below a million the product has not saturated
      have hmin : min (domain * radix) (2 ^ 64 - 1) = domain * radix := by omega
      rw [hmin] at h
      exact domainLoop_le hradix h

theorem one_million_le_of_domain {radix n : Nat} (hradix : 0 < radix) (h : fpeDomainIsLargeEnough radix n = true) :
    1000000 ≤ radix ^ n := by
  have hle := domainLoop_le hradix h
  rwa [Nat.one_mul] at hle

/-! ## Lengths -/

variable {profile : FpeProfile} {position : Nat} {items text : List Char} {digits output : List UInt16}
  {kept : List (Nat × Char)}

theorem Laid.length_le (h : Laid profile position items digits kept) : digits.length ≤ items.length := by
  induction h with
  | nil position => exact Nat.le_refl 0
  | preserved _ _ ih =>
    rw [List.length_cons]
    omega
  | digit _ _ _ ih =>
    rw [List.length_cons, List.length_cons]
    omega

/-- The digits of an accepted value are in the domain of FF1. -/
theorem Accepted.inDomain (hok : ProfileOk profile) {cipher : Ff1Cipher}
    (hradix : cipher.radix = profile.alphabetChars.length) {value : String} {prepared : PreparedFpeValue}
    (h : Accepted profile value prepared) : InDomain cipher prepared.digits := by
  have hlt := h.laid.digits_lt
  have hpos : 0 < profile.alphabetChars.length := by
    obtain ⟨d, hd⟩ := List.exists_mem_of_ne_nil _ h.digits.1
    exact Nat.zero_lt_of_lt (hlt d hd)
  have hlen := h.laid.length_le
  have hbound := h.bounds.2
  have hmax := hok.maxLen
  rw [fpeValueMaxLen] at hmax
  refine ⟨?_, ?_, ?_, by omega⟩
  · rw [hradix]
    exact hok.size
  · rw [hradix]
    exact hlt
  · rw [hradix]
    exact one_million_le_of_domain hpos h.digits.2

/-! ## The two walks -/

/-- Preserved characters stay, and every other position holds a character of the alphabet. -/
def SameFormat (profile : FpeProfile) : List Char → List Char → Prop :=
  List.Forall₂ fun c c' => (c ∈ profile.preserved → c' = c) ∧ (c ∉ profile.preserved → c' ∈ profile.alphabet.toList)

/-- The alphabet indexes of a text at the positions where `value` has no preserved character. -/
def indexesAt (profile : FpeProfile) (value text : List Char) : List (Option UInt16) :=
  ((value.zip text).filter fun pair => pair.1 ∉ profile.preserved).map fun pair => profile.alphabetIndex.lookup pair.2

/-- Two texts with the same preserved characters in the same places. -/
theorem Laid.both {motive : Nat → List Char → List UInt16 → List Char → List UInt16 → Prop}
    (nil : ∀ position, motive position [] [] [] [])
    (preserved : ∀ position c items digits text output, c ∈ profile.preserved →
      motive (position + 1) items digits text output → motive position (c :: items) digits (c :: text) output)
    (digit : ∀ position c d items digits c' d' text output, c ∉ profile.preserved →
      profile.alphabetChars[d.toNat]? = some c → profile.alphabetChars[d'.toNat]? = some c' →
      motive (position + 1) items digits text output → motive position (c :: items) (d :: digits) (c' :: text)
      (d' :: output))
    (h : Laid profile position items digits kept) : ∀ {text : List Char} {output : List UInt16},
      Laid profile position text output kept → text.length = items.length →
      motive position items digits text output := by
  induction h with
  | nil position =>
    intro text output h' hlength
    cases h' with
    | nil => exact nil position
    | digit => cases hlength
  | @preserved position c items digits kept hmem _ ih =>
    intro text output h' hlength
    cases h' with
    | preserved hmem' h' => exact preserved _ _ _ _ _ _ hmem (ih h' (Nat.succ.inj hlength))
    | digit _ _ h' =>
      have hle := h'.le_kept _ List.mem_cons_self
      exact absurd hle (by simp)
  | @digit position c d items digits kept hmem hget hrest ih =>
    intro text output h' hlength
    cases h' with
    | nil => cases hlength
    | preserved hmem' h' =>
      have hle := hrest.le_kept _ List.mem_cons_self
      exact absurd hle (by simp)
    | digit hmem' hget' h' => exact digit _ _ _ _ _ _ _ _ _ hmem hget hget' (ih h' (Nat.succ.inj hlength))

theorem Laid.format (hok : ProfileOk profile) (h : Laid profile position items digits kept)
    (h' : Laid profile position text output kept) (hlength : text.length = items.length) :
    SameFormat profile items text := by
  refine Laid.both (motive := fun _ items _ text _ => SameFormat profile items text) ?_ ?_ ?_ h h' hlength
  · exact fun _ => .nil
  · intro position c items digits text output hmem ih
    exact .cons ⟨fun _ => rfl, fun hnot => absurd hmem hnot⟩ ih
  · intro position c d items digits c' d' text output hmem _ hget ih
    exact .cons ⟨fun h => absurd h hmem, fun _ => hok.chars ▸ List.mem_of_getElem? hget⟩ ih

theorem Laid.indexes (hok : ProfileOk profile) (h : Laid profile position items digits kept)
    (h' : Laid profile position text output kept) (hlength : text.length = items.length) :
    indexesAt profile items text = output.map some := by
  refine Laid.both (motive := fun _ items _ text output => indexesAt profile items text = output.map some) ?_ ?_ ?_ h h'
    hlength
  · exact fun _ => rfl
  · intro position c items digits text output hmem ih
    rw [← ih]
    simp [indexesAt, hmem]
  · intro position c d items digits c' d' text output hmem _ hget ih
    rw [List.map_cons, ← ih, ← (hok.index c' d').mpr hget]
    simp [indexesAt, hmem]

/-! ## The format is kept -/

/-- Every accepted value of a validated profile is transformed, in every context of the profile and in both directions,
to a text of its format whose alphabet indexes are FF1 of those of the value. -/
theorem fpeTransform_keeps_format {newFf1 : NewFf1} {hkdf : Hkdf} {hooks : FpeHooks} {inputs : List FpeProfileInput}
    {state : ProfilesState FpeProfile} {name : String} {context : FpeContext} {cipher : Ff1Cipher} {ff1 : Ff1}
    (hstate : validateFpeProfiles newFf1 hooks inputs = .ok state) (hget : state.get name = some profile)
    (hcontext : ContextOf newFf1 hkdf profile context) (hcipher : context.cipher = .ok cipher) (hff1 : ff1.KeepsFormat)
    {field value : String} {prepared : PreparedFpeValue} (hparse : parseFpeValueDigits field value profile =
      .ok prepared)
    (encrypt : Bool) :
    ∃ text, fpeTransform ff1 profile prepared encrypt cipher = .ok text ∧
      text.toList.length = value.toList.length ∧ SameFormat profile value.toList text.toList ∧
      ∃ input output, indexesAt profile value.toList value.toList = input.map some ∧
        ff1.run encrypt cipher (bytesOf profile.tweakAad) input = .ok output ∧
        indexesAt profile value.toList text.toList = output.map some := by
  have hmem := ProfilesState.mem_of_get hget
  have hok := profileOk_of_validate hstate profile hmem
  have hradix := (contextOf_cipher hok hcontext).2.1 cipher hcipher
  have haccepted := (parse_ok_iff hok).mp hparse
  have hdomain := haccepted.inDomain hok hradix
  obtain ⟨output, hrun, hlength, hvalid⟩ := hff1 encrypt cipher (bytesOf profile.tweakAad) prepared.digits hdomain
  obtain ⟨chars, hlaid, hchars⟩ := haccepted.laid.fill hok hlength (hradix ▸ hvalid)
  have hrebuild := rebuild_of_laid hlaid
  rw [hchars, ← haccepted.total] at hrebuild
  refine ⟨String.ofList chars, ?_, ?_, ?_, prepared.digits, output, ?_, hrun, ?_⟩
  · exact fpeTransform_ok_iff.mpr ⟨output, hrun, by rw [String.toList_ofList]; exact hrebuild⟩
  · rw [String.toList_ofList, hchars]
  · rw [String.toList_ofList]
    exact haccepted.laid.format hok hlaid hchars
  · exact haccepted.laid.indexes hok haccepted.laid rfl
  · rw [String.toList_ofList]
    exact haccepted.laid.indexes hok hlaid hchars

theorem swapping_keepsFormat {radix : Nat} {a b : List UInt16} (h : (swapping radix a b).Permutes) :
    (swapping radix a b).KeepsFormat := by
  intro encrypt cipher tweak digits hdomain
  have hrun : ∃ output, (swapping radix a b).run encrypt cipher tweak digits = .ok output := by
    cases encrypt <;> exact ⟨_, rfl⟩
  obtain ⟨output, hrun⟩ := hrun
  obtain ⟨hlength, hvalid, -⟩ := h.undoes encrypt cipher tweak digits output hdomain.valid hrun
  exact ⟨output, hrun, hlength, hvalid⟩

/-- Digits with separators, with an FF1 that swaps two digit strings. -/
theorem fpeTransform_keeps_format_example : ∃ state profile prepared text,
    validateFpeProfiles exampleNewFf1 exampleHooks [exampleInput "0123456789"] = .ok state ∧
    state.get "patient-id" = some profile ∧
    parseFpeValueDigits "plaintext" "001-234-567" profile = .ok prepared ∧
    fpeTransform (swapping 10 (List.replicate 9 1) (List.replicate 9 2)) profile prepared true
      ⟨List.replicate 32 7, 10⟩ = .ok text ∧ SameFormat profile "001-234-567".toList text.toList := by
  have hlt : ∀ n : UInt16, n.toNat < 10 → ∀ d ∈ List.replicate 9 n, d.toNat < 10 := by
    intro n hn d hd
    rw [List.eq_of_mem_replicate hd]
    exact hn
  have hperm : (swapping 10 (List.replicate 9 1) (List.replicate 9 2)).Permutes :=
    swapping_permutes rfl (hlt 1 (by decide)) (hlt 2 (by decide))
  have hff1 := swapping_keepsFormat hperm
  obtain ⟨text, htext, -, hformat, -⟩ := @fpeTransform_keeps_format _ exampleNewFf1 (fun _ _ _ _ => .ok []) exampleHooks
    [exampleInput "0123456789"] _ "patient-id" _ _ _ rfl rfl .legacy rfl hff1 "plaintext" "001-234-567" _ rfl true
  exact ⟨_, _, _, text, rfl, rfl, rfl, htext, hformat⟩

end Vectis.Core.Fpe

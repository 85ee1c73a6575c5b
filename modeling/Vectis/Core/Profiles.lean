import Mathlib.Data.Set.Defs
import Vectis.Core.Labels
import Vectis.Ops.Keys

/-!
# Profiles of the configuration

What the profile sections have in common: the checks of the kid and of the name (`validateProfileKid`,
`rejectDuplicatedName`), the list with its index by name (`ProfilesState`), and the derivation of keys (`Hkdf`, a
parameter).
-/

namespace Vectis.Core.Profiles

open Validation Ops.Keys

inductive SubjectMode
  | none
  | stored
  deriving DecidableEq, Repr

/-- `crypto::create_hkdf`: the input key, the salt, the info and the length of the output. -/
abbrev Hkdf := List UInt8 → List UInt8 → List UInt8 → Nat → Res (List UInt8)

/-- The output has the length that was asked for. -/
def Sized (hkdf : Hkdf) : Prop := ∀ inputKey salt info length output, hkdf inputKey salt info length = .ok output →
  output.length = length

/-- A call of HKDF. -/
structure HkdfQuery where
  inputKey : List UInt8
  salt : List UInt8
  info : List UInt8
  length : Nat
  deriving DecidableEq, Repr

/-- Different calls have different outputs. -/
def Distinct (hkdf : Hkdf) (asked : Set HkdfQuery) : Prop := ∀ q ∈ asked, ∀ r ∈ asked, ∀ output,
  hkdf q.inputKey q.salt q.info q.length = .ok output → hkdf r.inputKey r.salt r.info r.length = .ok output → q = r

/-- Bytes of a text in the source. -/
def bytesOf (text : String) : List UInt8 := Utf8.encode text

/-- `hex::decode`, with the error of that crate. -/
def hexDecode (text : String) : Res (List UInt8) :=
  match Hex.decode text with
  | some bytes => .ok bytes
  | none => .error (.other "invalid hex")

/-! ## Checks -/

def validateProfileKid (kind : String) (isLoadedKid : String → Bool) (kid : String) : Res Unit := do
  (validateKeyId kid).mapError fun err => .invalidInput (kind ++ "_profiles.kid is invalid: " ++ err.toText)
  if isLoadedKid kid then .ok ()
  else .error (.invalidInput (kind ++ " profile references kid not loaded in memory: " ++ kid))

def rejectDuplicatedName (kind : String) (seenNames : List String) (name : String) : Res Unit :=
  if name ∈ seenNames then .error (.invalidInput (kind ++ " profile has duplicated name: " ++ name)) else .ok ()

theorem validateProfileKid_ok_iff {kind kid : String} {isLoadedKid : String → Bool} :
    validateProfileKid kind isLoadedKid kid = .ok () ↔ validateKeyId kid = .ok () ∧ isLoadedKid kid = true := by
  unfold validateProfileKid
  rw [Loop.bind_unit_eq_ok, Loop.mapError_eq_ok, Loop.check_eq_ok]
  simp

/-! ## Names and kids in associated data -/

theorem hexdigit_text {c : Char} (h : isAsciiHexdigit c = true) :
    isWhitespace c = false ∧ isControl c = false ∧ c ≠ ';' ∧ c ≠ '=' := by
  have hlt : c.toNat < 128 := Nat.lt_succ_of_le (UInt32.le_iff_toNat_le.mp (isAscii_of_hexdigit h))
  have hall : ∀ n : Fin 128, isAsciiHexdigit (Char.ofNat n) = true →
      isWhitespace (Char.ofNat n) = false ∧ isControl (Char.ofNat n) = false ∧ Char.ofNat n ≠ ';' ∧
      Char.ofNat n ≠ '=' := by
    decide
  have hc := hall ⟨c.toNat, hlt⟩
  rw [Char.ofNat_toNat] at hc
  exact hc h

/-- Hex digits are a value of associated data. -/
theorem validateAadValue_of_hex {field value : String} (hne : value.toList ≠ [])
    (h : value.toList.all isAsciiHexdigit = true) : validateAadValue field value = .ok () := by
  rw [List.all_eq_true] at h
  refine validateAadValue_ok_iff.mpr ⟨⟨?_, ?_⟩, ?_, ?_⟩
  · obtain ⟨c, hc⟩ := List.exists_mem_of_ne_nil _ hne
    exact List.all_eq_false.mpr ⟨c, hc, by simp [(hexdigit_text (h c hc)).1]⟩
  · exact List.any_eq_false.mpr fun c hc => by simp [(hexdigit_text (h c hc)).2.1]
  · exact fun hc => (hexdigit_text (h _ hc)).2.2.1 rfl
  · exact fun hc => (hexdigit_text (h _ hc)).2.2.2 rfl

theorem validateAadValue_of_kid {field kid : String} (h : validateKeyId kid = .ok ()) :
    validateAadValue field kid = .ok () := by
  obtain ⟨hsize, hhex⟩ := validateInternalHash_ok_iff.mp h
  refine validateAadValue_of_hex ?_ hhex
  intro hnil
  rw [String.toList_eq_nil_iff.mp hnil] at hsize
  exact absurd hsize (by decide)

theorem validateAadConfigName_ok_iff {field value : String} : validateAadConfigName field value = .ok () ↔
    validateConfigName field value = .ok () ∧ ';' ∉ value.toList ∧ '=' ∉ value.toList := by
  unfold validateAadConfigName rejectAadDelimiters
  rw [Loop.bind_unit_eq_ok, Loop.guard_eq_ok]
  simp

theorem validateAadValue_of_name {field field' name : String} (h : validateAadConfigName field name = .ok ()) :
    validateAadValue field' name = .ok () := by
  obtain ⟨hname, hdelimiters⟩ := validateAadConfigName_ok_iff.mp h
  exact validateAadValue_ok_iff.mpr ⟨(validateBoundedTextField_ok_iff.mp hname).1, hdelimiters⟩

theorem aadOk_kid {key kid : String} (hkey : validateAadKey "" key = .ok ()) (h : validateKeyId kid = .ok ()) :
    AadOk (key, kid) :=
  aadOk_of hkey (validateAadValue_of_kid h : validateAadValue "" kid = .ok ())

theorem aadOk_name {field key name : String} (hkey : validateAadKey "" key = .ok ())
    (h : validateAadConfigName field name = .ok ()) : AadOk (key, name) :=
  aadOk_of hkey (validateAadValue_of_name h : validateAadValue "" name = .ok ())

theorem validateSubject_ok {subject : String} (h : validateSubject subject = .ok ()) :
    subject.utf8ByteSize = 64 ∧ subject.toList.all isAsciiHexdigit = true := by
  obtain ⟨hnot, -⟩ := Loop.guard_eq_ok.mp h
  simp only [Bool.or_eq_true, decide_eq_true_eq, Bool.not_eq_true', not_or, ne_eq, Decidable.not_not,
    Bool.not_eq_false] at hnot
  refine ⟨hnot.1, List.all_eq_true.mpr fun c hc => ?_⟩
  have hchar := List.all_eq_true.mp hnot.2 c hc
  simp only [isAsciiHexdigit, hchar, Bool.true_or]

theorem aadOk_subject {subject : String} (h : validateSubject subject = .ok ()) : AadOk ("subject", subject) :=
  aadOk_kid (by decide) (validateInternalHash_ok_iff.mpr (validateSubject_ok h))

/-! ## Lists with an index -/

/-- The profiles of a section, and their index by name: the pairs in the order of their insertion. -/
structure ProfilesState (P : Type) where
  profiles : List P
  byName : List (String × Nat)
  deriving DecidableEq, Repr

namespace ProfilesState

variable {P : Type}

def fromProfiles (name : P → String) (profiles : List P) : ProfilesState P :=
  ⟨profiles, profiles.zipIdx.map fun entry => (name entry.1, entry.2)⟩

/-- A later pair replaces an earlier one. -/
def get (state : ProfilesState P) (name : String) : Option P :=
  (state.byName.reverse.lookup name).bind (state.profiles[·]?)

theorem mem_of_get {state : ProfilesState P} {name : String} {profile : P} (h : state.get name = some profile) :
    profile ∈ state.profiles := by
  obtain ⟨index, -, hindex⟩ := Option.bind_eq_some_iff.mp h
  exact List.mem_of_getElem? hindex

end ProfilesState

end Vectis.Core.Profiles

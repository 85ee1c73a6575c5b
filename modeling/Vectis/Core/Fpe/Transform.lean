import Mathlib.Logic.Equiv.Basic
import Vectis.Core.Fpe.Profile

/-!
# Format-preserving encryption

Values are cut into digits of the alphabet and preserved characters, the digits go through FF1, and the text is put
together again (`core/fpe.rs`). FF1 is a parameter: for each cipher and tweak it permutes the digit strings of each
length (`Ff1.Permutes`).

- `Laid`: the layout of a text, which the parser reads (`parseItems_ok_iff`) and the writer writes (`rebuild_of_laid`);
- `round_trip_iff`: texts go through encryption and decryption and back unless the alphabet has whitespace and the text
  has no visible preserved character, when FF1 may turn it into blank text, which both refuse.
-/

namespace Vectis.Core.Fpe

open Validation Profiles Ops.Keys

/-! ## FF1 -/

/-- The operations of a prepared cipher with a tweak; a message is the text of an error. -/
structure Ff1 where
  encrypt : Ff1Cipher → List UInt8 → List UInt16 → Except String (List UInt16)
  decrypt : Ff1Cipher → List UInt8 → List UInt16 → Except String (List UInt16)

/-- One operation keeps the length and the radix, and the other undoes it. -/
def Undoes (forward back : Ff1Cipher → List UInt8 → List UInt16 → Except String (List UInt16)) : Prop :=
  ∀ cipher tweak digits output, (∀ d ∈ digits, d.toNat < cipher.radix) → forward cipher tweak digits = .ok output →
    output.length = digits.length ∧ (∀ d ∈ output, d.toNat < cipher.radix) ∧ back cipher tweak output = .ok digits

/-- FF1 permutes the digit strings of each length. -/
structure Ff1.Permutes (ff1 : Ff1) : Prop where
  encrypt : Undoes ff1.encrypt ff1.decrypt
  decrypt : Undoes ff1.decrypt ff1.encrypt

/-! ## Contexts -/

inductive FpeContextKeys
  | legacy
  | subject (subject : String) (cipher : Ff1Cipher) (authKey : Option (List UInt8))
  deriving DecidableEq, Repr

structure FpeContext where
  profile : FpeProfile
  keys : FpeContextKeys
  deriving DecidableEq, Repr

def validateSubjectMode (profile : FpeProfile) (subject : Option String) : Res Unit := do
  match subject with
  | some subject => validateSubject subject
  | none => .ok ()
  match profile.subjectMode, subject with
  | .stored, none => .error (.invalidInput "subject is required for stored FPE profiles")
  | .none, some _ => .error (.invalidInput "subject is prohibited for legacy FPE profiles")
  | _, _ => .ok ()

def FpeProfile.requireCipher (profile : FpeProfile) : Res Ff1Cipher :=
  match profile.cipher with
  | some cipher => .ok cipher
  | none => .error (.invalidInput "stored FPE profile requires a subject context")

namespace FpeContext

/-- `From<Arc<FpeProfile>>`. -/
def fromProfile (profile : FpeProfile) : FpeContext := ⟨profile, .legacy⟩

def subject (context : FpeContext) : Option String :=
  match context.keys with
  | .legacy => none
  | .subject subject _ _ => some subject

def validateMode (context : FpeContext) (expected : Option String) : Res Unit := do
  validateSubjectMode context.profile expected
  if context.subject ≠ expected then .error (.invalidInput "subject does not match FPE context") else .ok ()

/-- The info of a key of a subject. -/
def subjectInfo (profile : FpeProfile) (purpose : String) (auth : Bool) : Res String :=
  buildValidatedAad ([("purpose", purpose), ("kid", profile.kid), ("profile", profile.name),
    ("fpe_version", profile.fpeVersion)] ++ (if auth then [("auth_version", fpeAuthVersion)] else []) ++
      [("version", "v1")])

/-- A key of a subject from the key of the profile and the seed of the subject. -/
def subjectKey (hkdf : Hkdf) (profile : FpeProfile) (parent : Option (List UInt8)) (missing : String) (purpose : String)
    (auth : Bool) (seed : List UInt8) : Res (List UInt8) :=
  match parent with
  | none => .error (.internal missing)
  | some parent => do
    let info ← subjectInfo profile purpose auth
    hkdf parent seed (bytesOf info) 32

def subjectAuthKey (hkdf : Hkdf) (profile : FpeProfile) (seed : List UInt8) : Res (Option (List UInt8)) :=
  if profile.authenticated then
    (subjectKey hkdf profile profile.authKey "FPE parent MAC key unavailable" "subject-fpe-authentication" true
      seed).map some
  else .ok none

def withSubject (newFf1 : NewFf1) (hkdf : Hkdf) (profile : FpeProfile) (subject : String) (seed : List UInt8) :
    Res FpeContext := do
  validateSubjectMode profile (some subject)
  let key ← subjectKey hkdf profile profile.parentKey "FPE parent key unavailable" "subject-fpe-encryption" false seed
  let cipher ← buildFpeCipher newFf1 key profile.alphabetChars.length
  let authKey ← subjectAuthKey hkdf profile seed
  .ok ⟨profile, .subject subject cipher authKey⟩

def cipher (context : FpeContext) : Res Ff1Cipher := do
  context.validateMode context.subject
  match context.keys with
  | .legacy => context.profile.requireCipher
  | .subject _ cipher _ => .ok cipher

end FpeContext

/-! ## Digits -/

structure PreparedFpeValue where
  digits : List UInt16
  preserved : List (Nat × Char)
  totalLen : Nat
  deriving DecidableEq, Repr

/-- The loop over the characters, from a position on: the digits and the preserved characters with their positions. -/
def parseItems (field : String) (profile : FpeProfile) : Nat → List Char → Res (List UInt16 × List (Nat × Char))
  | _, [] => .ok ([], [])
  | position, item :: items =>
    if item ∈ profile.preserved then
      (parseItems field profile (position + 1) items).map fun parsed => (parsed.1, (position, item) :: parsed.2)
    else
      match profile.alphabetIndex.lookup item with
      | none => .error (.invalidInput (field ++ " contains character outside fpe profile alphabet"))
      | some digit => (parseItems field profile (position + 1) items).map fun parsed => (digit :: parsed.1, parsed.2)

def parseFpeValueDigits (field value : String) (profile : FpeProfile) : Res PreparedFpeValue := do
  let totalLen := value.toList.length
  if totalLen < profile.minLen.toNat || totalLen > profile.maxLen.toNat then
    .error (.invalidInput (field ++ " length is outside fpe profile bounds"))
  else
    validateTextField field value
    let (digits, preserved) ← parseItems field profile 0 value.toList
    if digits.isEmpty || !fpeDomainIsLargeEnough profile.alphabetChars.length digits.length then
      .error (.invalidInput
        (field ++ " effective domain is too small for FF1 after excluding preserved characters"))
    else .ok ⟨digits, preserved, totalLen⟩

/-- The character of the next digit. -/
def nextChar (alphabetChars : List Char) : List UInt16 → Res (Char × List UInt16)
  | [] => .error (.internal "fpe operation returned invalid alphabet index")
  | digit :: digits =>
    match alphabetChars[digit.toNat]? with
    | none => .error (.internal "fpe operation returned invalid alphabet index")
    | some ch => .ok (ch, digits)

/-- The character of a position: the next preserved one if it stands there. -/
def nextItem (alphabetChars : List Char) (position : Nat) (positions : List (Nat × Char)) (digits : List UInt16) :
    Res (Char × List (Nat × Char) × List UInt16) :=
  match positions with
  | entry :: rest =>
    if entry.1 = position then .ok (entry.2, rest, digits)
    else (nextChar alphabetChars digits).map fun next => (next.1, entry :: rest, next.2)
  | [] => (nextChar alphabetChars digits).map fun next => (next.1, [], next.2)

/-- The loop over the positions of the text, `remaining` of them from a position on. -/
def rebuild (alphabetChars : List Char) : (remaining position : Nat) → List (Nat × Char) → List UInt16 → Res (List Char)
  | 0, _, _, _ => .ok []
  | remaining + 1, position, positions, digits => do
    let (ch, positions, digits) ← nextItem alphabetChars position positions digits
    (rebuild alphabetChars remaining (position + 1) positions digits).map (ch :: ·)

def fpeTransform (ff1 : Ff1) (profile : FpeProfile) (value : PreparedFpeValue) (encrypt : Bool) (cipher : Ff1Cipher) :
    Res String := do
  let outputResult := if encrypt then ff1.encrypt cipher (bytesOf profile.tweakAad) value.digits
    else ff1.decrypt cipher (bytesOf profile.tweakAad) value.digits
  let output ← outputResult.mapError fun err => .invalidInput ("fpe operation failed: " ++ err)
  let result ← rebuild profile.alphabetChars value.totalLen 0 value.preserved output
  .ok (String.ofList result)

def fpeEncrypt (ff1 : Ff1) (profile : FpeProfile) (plaintext : String) : Res String := do
  let digits ← parseFpeValueDigits "plaintext" plaintext profile
  fpeTransform ff1 profile digits true (← profile.requireCipher)

def fpeDecrypt (ff1 : Ff1) (profile : FpeProfile) (ciphertext : String) : Res String := do
  let digits ← parseFpeValueDigits "ciphertext" ciphertext profile
  fpeTransform ff1 profile digits false (← profile.requireCipher)

namespace FpeContext

def encrypt (ff1 : Ff1) (context : FpeContext) (value : String) : Res String := do
  let cipher ← context.cipher
  fpeTransform ff1 context.profile (← parseFpeValueDigits "plaintext" value context.profile) true cipher

def decrypt (ff1 : Ff1) (context : FpeContext) (value : String) : Res String := do
  let cipher ← context.cipher
  fpeTransform ff1 context.profile (← parseFpeValueDigits "ciphertext" value context.profile) false cipher

end FpeContext

/-! ## Layouts -/

/-- The layout of a text from a position on: its digits, and its preserved characters with their positions. -/
inductive Laid (profile : FpeProfile) : Nat → List Char → List UInt16 → List (Nat × Char) → Prop
  | nil (position : Nat) : Laid profile position [] [] []
  | preserved {position : Nat} {c : Char} {items : List Char} {digits : List UInt16} {kept : List (Nat × Char)} :
      c ∈ profile.preserved → Laid profile (position + 1) items digits kept →
      Laid profile position (c :: items) digits ((position, c) :: kept)
  | digit {position : Nat} {c : Char} {d : UInt16} {items : List Char} {digits : List UInt16}
      {kept : List (Nat × Char)} :
      c ∉ profile.preserved → profile.alphabetChars[d.toNat]? = some c → Laid profile (position + 1) items digits kept →
      Laid profile position (c :: items) (d :: digits) kept

variable {profile : FpeProfile} {position : Nat} {items text : List Char} {digits output : List UInt16}
  {kept : List (Nat × Char)}

theorem laid_of_parseItems (hok : ProfileOk profile) {field : String} : ∀ {items : List Char} {position : Nat}
    {digits : List UInt16} {kept : List (Nat × Char)}, parseItems field profile position items = .ok (digits, kept) →
    Laid profile position items digits kept
  | [], position, digits, kept, h => by
    cases h
    exact .nil position
  | item :: items, position, digits, kept, h => by
    unfold parseItems at h
    split at h
    · rename_i hmem
      obtain ⟨parsed, hparsed, h⟩ := Loop.map_eq_ok.mp h
      cases h
      exact .preserved hmem (laid_of_parseItems hok hparsed)
    · rename_i hmem
      split at h
      · cases h
      · rename_i d hlookup
        obtain ⟨parsed, hparsed, h⟩ := Loop.map_eq_ok.mp h
        cases h
        exact .digit hmem ((hok.index item d).mp hlookup) (laid_of_parseItems hok hparsed)

theorem parseItems_of_laid (hok : ProfileOk profile) (field : String) (h : Laid profile position items digits kept) :
    parseItems field profile position items = .ok (digits, kept) := by
  induction h with
  | nil position => rfl
  | preserved hmem _ ih =>
    rw [parseItems, if_pos hmem, ih]
    rfl
  | digit hmem hget _ ih =>
    rw [parseItems, if_neg hmem, (hok.index _ _).mpr hget, ih]
    rfl

theorem Laid.le_kept (h : Laid profile position items digits kept) : ∀ entry ∈ kept, position ≤ entry.1 := by
  induction h with
  | nil position => simp
  | preserved _ _ ih =>
    intro entry hentry
    rcases List.mem_cons.mp hentry with rfl | hentry
    · exact Nat.le_refl _
    · exact Nat.le_of_succ_le (ih entry hentry)
  | digit _ _ _ ih => exact fun entry hentry => Nat.le_of_succ_le (ih entry hentry)

/-- The writer gives back a text from its layout. -/
theorem rebuild_of_laid (h : Laid profile position items digits kept) :
    rebuild profile.alphabetChars items.length position kept digits = .ok items := by
  induction h with
  | nil position => rfl
  | preserved _ _ ih =>
    rw [List.length_cons, rebuild]
    simp only [nextItem, ↓reduceIte, bind, Except.bind, ih]
    rfl
  | @digit position c d items digits kept _ hget hrest ih =>
    have hitem : nextItem profile.alphabetChars position kept (d :: digits) = .ok (c, kept, digits) := by
      cases kept with
      | nil => simp [nextItem, nextChar, hget, Except.map]
      | cons entry kept =>
        have hle := hrest.le_kept entry List.mem_cons_self
        have hne : entry.1 ≠ position := by omega
        simp [nextItem, hne, nextChar, hget, Except.map]
    rw [List.length_cons, rebuild, hitem]
    simp only [bind, Except.bind, ih]
    rfl

/-- Other digits in the same layout. -/
theorem Laid.fill (hok : ProfileOk profile) (h : Laid profile position items digits kept) :
    ∀ {output : List UInt16}, output.length = digits.length → (∀ d ∈ output, d.toNat < profile.alphabetChars.length) →
    ∃ text, Laid profile position text output kept ∧ text.length = items.length := by
  induction h with
  | nil position =>
    intro output hlength _
    rw [List.length_eq_zero_iff.mp hlength]
    exact ⟨[], .nil position, rfl⟩
  | preserved hmem _ ih =>
    intro output hlength hvalid
    obtain ⟨text, htext, hlen⟩ := ih hlength hvalid
    exact ⟨_ :: text, .preserved hmem htext, by rw [List.length_cons, List.length_cons, hlen]⟩
  | digit hmem hget _ ih =>
    intro output hlength hvalid
    cases output with
    | nil => cases hlength
    | cons d output =>
      obtain ⟨text, htext, hlen⟩ := ih (Nat.succ.inj hlength) fun d' hd' => hvalid d' (List.mem_cons_of_mem _ hd')
      have hlt := hvalid d List.mem_cons_self
      have hnot := hok.disjoint _ (List.getElem_mem hlt)
      exact ⟨_ :: text, .digit hnot (List.getElem?_eq_getElem hlt) htext,
        by rw [List.length_cons, List.length_cons, hlen]⟩

theorem Laid.digits_lt (h : Laid profile position items digits kept) :
    ∀ d ∈ digits, d.toNat < profile.alphabetChars.length := by
  induction h with
  | nil position => simp
  | preserved _ _ ih => exact ih
  | digit _ hget _ ih =>
    intro d hd
    rcases List.mem_cons.mp hd with rfl | hd
    · exact (List.getElem?_eq_some_iff.mp hget).1
    · exact ih d hd

/-- The characters of a text: those of its digits, and the preserved ones. -/
theorem Laid.mem_iff (h : Laid profile position items digits kept) {c : Char} :
    c ∈ items ↔ (∃ d ∈ digits, profile.alphabetChars[d.toNat]? = some c) ∨ ∃ entry ∈ kept, entry.2 = c := by
  induction h with
  | nil position => simp
  | preserved _ _ ih =>
    simp only [List.mem_cons, ih, exists_eq_or_imp]
    constructor
    · rintro (rfl | h | h)
      · exact Or.inr (Or.inl rfl)
      · exact Or.inl h
      · exact Or.inr (Or.inr h)
    · rintro (h | rfl | h)
      · exact Or.inr (Or.inl h)
      · exact Or.inl rfl
      · exact Or.inr (Or.inr h)
  | digit _ hget _ ih =>
    simp only [List.mem_cons, ih, exists_eq_or_imp, hget, Option.some.injEq]
    constructor
    · rintro (rfl | h | h)
      · exact Or.inl (Or.inl rfl)
      · exact Or.inl (Or.inr h)
      · exact Or.inr h
    · rintro ((rfl | h) | h)
      · exact Or.inl rfl
      · exact Or.inr (Or.inl h)
      · exact Or.inr (Or.inr h)

theorem Laid.kept_preserved (h : Laid profile position items digits kept) :
    ∀ entry ∈ kept, entry.2 ∈ profile.preserved := by
  induction h with
  | nil position => simp
  | preserved hmem _ ih => exact List.forall_mem_cons.mpr ⟨hmem, ih⟩
  | digit _ _ _ ih => exact ih

/-! ## What is accepted -/

/-- A text that the parser accepts, whatever the name of the field. -/
structure Accepted (profile : FpeProfile) (value : String) (prepared : PreparedFpeValue) : Prop where
  bounds : profile.minLen.toNat ≤ value.toList.length ∧ value.toList.length ≤ profile.maxLen.toNat
  text : value.toList.all isWhitespace = false ∧ value.toList.any isControl = false
  laid : Laid profile 0 value.toList prepared.digits prepared.preserved
  digits : prepared.digits ≠ [] ∧ fpeDomainIsLargeEnough profile.alphabetChars.length prepared.digits.length = true
  total : prepared.totalLen = value.toList.length

theorem parse_ok_iff (hok : ProfileOk profile) {field value : String} {prepared : PreparedFpeValue} :
    parseFpeValueDigits field value profile = .ok prepared ↔ Accepted profile value prepared := by
  unfold parseFpeValueDigits
  simp only [Loop.guard_eq_ok, Loop.bind_unit_eq_ok, validateTextField_ok_iff, Bool.or_eq_true, decide_eq_true_eq,
    not_or, Nat.not_lt, gt_iff_lt]
  constructor
  · rintro ⟨hbounds, htext, h⟩
    obtain ⟨⟨digits, kept⟩, hparsed, h⟩ := Loop.bind_eq_ok.mp h
    obtain ⟨hdigits, h⟩ := Loop.guard_eq_ok.mp h
    cases h
    exact ⟨hbounds, htext, laid_of_parseItems hok hparsed, by simpa using hdigits, rfl⟩
  · intro h
    refine ⟨h.bounds, h.text, Loop.bind_eq_ok.mpr ⟨_, parseItems_of_laid hok field h.laid,
      Loop.guard_eq_ok.mpr ⟨?_, ?_⟩⟩⟩
    · simpa using h.digits
    · rw [← h.total]

/-- FF1 in one of the two directions. -/
def Ff1.run (ff1 : Ff1) (encrypt : Bool) : Ff1Cipher → List UInt8 → List UInt16 → Except String (List UInt16) :=
  if encrypt then ff1.encrypt else ff1.decrypt

theorem Ff1.Permutes.undoes {ff1 : Ff1} (h : ff1.Permutes) : ∀ encrypt, Undoes (ff1.run encrypt) (ff1.run !encrypt)
  | true => h.encrypt
  | false => h.decrypt

theorem fpeTransform_ok_iff {ff1 : Ff1} {prepared : PreparedFpeValue} {encrypt : Bool} {cipher : Ff1Cipher}
    {text : String} :
    fpeTransform ff1 profile prepared encrypt cipher = .ok text ↔
      ∃ output, ff1.run encrypt cipher (bytesOf profile.tweakAad) prepared.digits = .ok output ∧
        rebuild profile.alphabetChars prepared.totalLen 0 prepared.preserved output = .ok text.toList := by
  have hrun : (if encrypt then ff1.encrypt cipher (bytesOf profile.tweakAad) prepared.digits
      else ff1.decrypt cipher (bytesOf profile.tweakAad) prepared.digits) =
      ff1.run encrypt cipher (bytesOf profile.tweakAad) prepared.digits := by
    cases encrypt <;> rfl
  unfold fpeTransform
  rw [hrun, Loop.bind_eq_ok]
  constructor
  · rintro ⟨output, houtput, h⟩
    obtain ⟨result, hresult, h⟩ := Loop.bind_eq_ok.mp h
    cases h
    rw [String.toList_ofList]
    exact ⟨output, Loop.mapError_eq_ok.mp houtput, hresult⟩
  · rintro ⟨output, houtput, hresult⟩
    exact ⟨output, Loop.mapError_eq_ok.mpr houtput, Loop.bind_eq_ok.mpr ⟨_, hresult, by rw [String.ofList_toList]⟩⟩

section Transforms

variable {ff1 : Ff1} {cipher : Ff1Cipher} {value text : String} {prepared : PreparedFpeValue} {encrypt : Bool}

/-- The text of an accepted value has its layout, with other digits. -/
theorem transform_laid (hok : ProfileOk profile) (hperm : ff1.Permutes)
    (hradix : cipher.radix = profile.alphabetChars.length) (haccepted : Accepted profile value prepared)
    (h : fpeTransform ff1 profile prepared encrypt cipher = .ok text) :
    ∃ output, Laid profile 0 text.toList output prepared.preserved ∧ output.length = prepared.digits.length ∧
      text.toList.length = value.toList.length ∧
      ff1.run (!encrypt) cipher (bytesOf profile.tweakAad) output = .ok prepared.digits := by
  obtain ⟨output, houtput, hrebuild⟩ := fpeTransform_ok_iff.mp h
  have hdigits : ∀ d ∈ prepared.digits, d.toNat < cipher.radix := fun d hd => hradix ▸ haccepted.laid.digits_lt d hd
  obtain ⟨hlength, hvalid, hback⟩ := hperm.undoes encrypt _ _ _ _ hdigits houtput
  obtain ⟨chars, hlaid, hchars⟩ := haccepted.laid.fill hok hlength (hradix ▸ hvalid)
  have heq := rebuild_of_laid hlaid
  rw [hchars, ← haccepted.total, hrebuild] at heq
  cases heq
  exact ⟨output, hlaid, hlength, hchars, hback⟩

theorem laid_printable (hok : ProfileOk profile) (h : Laid profile position items digits kept) :
    items.any isControl = false := by
  rw [List.any_eq_false]
  intro c hc
  rcases h.mem_iff.mp hc with ⟨d, -, hget⟩ | ⟨entry, hentry, rfl⟩
  · exact List.any_eq_false.mp hok.printable.1 c (List.mem_of_getElem? hget)
  · exact List.any_eq_false.mp hok.printable.2 _ (h.kept_preserved entry hentry)

/-- Text that is not blank is turned back. -/
theorem transform_back (hok : ProfileOk profile) (hperm : ff1.Permutes)
    (hradix : cipher.radix = profile.alphabetChars.length) (haccepted : Accepted profile value prepared)
    (h : fpeTransform ff1 profile prepared encrypt cipher = .ok text)
    (hvisible : text.toList.all isWhitespace = false) :
    ∃ prepared', Accepted profile text prepared' ∧ fpeTransform ff1 profile prepared' (!encrypt) cipher =
    .ok value := by
  obtain ⟨output, hlaid, hlength, hchars, hback⟩ := transform_laid hok hperm hradix haccepted h
  have hdigits : output ≠ [] := by
    intro hnil
    rw [hnil] at hlength
    exact haccepted.digits.1 (List.length_eq_zero_iff.mp hlength.symm)
  refine ⟨⟨output, prepared.preserved, text.toList.length⟩, ?_, ?_⟩
  · exact ⟨hchars ▸ haccepted.bounds, ⟨hvisible, laid_printable hok hlaid⟩, hlaid,
      ⟨hdigits, hlength ▸ haccepted.digits.2⟩, rfl⟩
  · refine fpeTransform_ok_iff.mpr ⟨prepared.digits, hback, ?_⟩
    rw [hchars]
    exact rebuild_of_laid haccepted.laid

/-- Whether FF1 may turn a text into blank text: the alphabet has whitespace, and no preserved character is visible. -/
def MayBlank (profile : FpeProfile) (value : String) : Prop :=
  (∃ c ∈ profile.alphabet.toList, isWhitespace c = true) ∧
    ∀ c ∈ value.toList, c ∈ profile.preserved → isWhitespace c = true

theorem visible_of_not_mayBlank (hok : ProfileOk profile) (hperm : ff1.Permutes)
    (hradix : cipher.radix = profile.alphabetChars.length) (haccepted : Accepted profile value prepared)
    (h : fpeTransform ff1 profile prepared encrypt cipher = .ok text) (hnot : ¬ MayBlank profile value) :
    text.toList.all isWhitespace = false := by
  obtain ⟨output, hlaid, hlength, -, -⟩ := transform_laid hok hperm hradix haccepted h
  rw [List.all_eq_false]
  by_cases halphabet : ∃ c ∈ profile.alphabet.toList, isWhitespace c = true
  · -- a visible preserved character stays where it is
    obtain ⟨c, hc, hpreserved, hvisible⟩ : ∃ c ∈ value.toList, c ∈ profile.preserved ∧ ¬ isWhitespace c = true := by
      by_contra hnone
      refine hnot ⟨halphabet, fun c hc hpreserved => ?_⟩
      by_contra hvisible
      exact hnone ⟨c, hc, hpreserved, hvisible⟩
    refine ⟨c, hlaid.mem_iff.mpr (Or.inr ?_), hvisible⟩
    rcases haccepted.laid.mem_iff.mp hc with ⟨d, -, hget⟩ | hkept
    · exact absurd hpreserved (hok.disjoint c (List.mem_of_getElem? hget))
    · exact hkept
  · -- every digit is visible, and there is one
    cases output with
    | nil => exact absurd (List.length_eq_zero_iff.mp hlength.symm) haccepted.digits.1
    | cons d output =>
      have hlt := hlaid.digits_lt d List.mem_cons_self
      have hmem : profile.alphabetChars[d.toNat] ∈ profile.alphabet.toList := hok.chars ▸ List.getElem_mem hlt
      exact ⟨_, hlaid.mem_iff.mpr (Or.inl ⟨d, List.mem_cons_self, List.getElem?_eq_getElem hlt⟩),
        fun hblank => halphabet ⟨_, hmem, hblank⟩⟩

/-- FF1 that swaps two digit strings of one radix. -/
def swapping (radix : Nat) (a b : List UInt16) : Ff1 where
  encrypt cipher _ digits := .ok (if cipher.radix = radix then Equiv.swap a b digits else digits)
  decrypt cipher _ digits := .ok (if cipher.radix = radix then Equiv.swap a b digits else digits)

theorem swapping_permutes {radix : Nat} {a b : List UInt16} (hlength : a.length = b.length)
    (ha : ∀ d ∈ a, d.toNat < radix) (hb : ∀ d ∈ b, d.toNat < radix) : (swapping radix a b).Permutes := by
  have hundoes : Undoes (swapping radix a b).encrypt (swapping radix a b).decrypt := by
    intro cipher tweak digits output hdigits houtput
    simp only [swapping, Except.ok.injEq] at houtput ⊢
    by_cases hradix : cipher.radix = radix
    · rw [if_pos hradix] at houtput
      rw [if_pos hradix]
      subst houtput
      refine ⟨?_, ?_, Equiv.swap_apply_self a b digits⟩
      · rw [Equiv.swap_apply_def]
        split
        · simp [*]
        · split <;> simp [*]
      · rw [Equiv.swap_apply_def, hradix]
        split
        · exact hb
        · split
          · exact ha
          · exact hradix ▸ hdigits
    · rw [if_neg hradix] at houtput
      rw [if_neg hradix]
      subst houtput
      exact ⟨rfl, hdigits, rfl⟩
  exact ⟨hundoes, hundoes⟩

/-- The digits that make a text blank. -/
theorem blank_of_mayBlank (hok : ProfileOk profile) (haccepted : Accepted profile value prepared)
    (hmay : MayBlank profile value) :
    ∃ output text, output.length = prepared.digits.length ∧ (∀ d ∈ output, d.toNat < profile.alphabetChars.length) ∧
      Laid profile 0 text output prepared.preserved ∧ text.length = value.toList.length ∧
      text.all isWhitespace = true := by
  obtain ⟨⟨c, hc, hblank⟩, hkept⟩ := hmay
  rw [← hok.chars] at hc
  obtain ⟨n, hn, hget⟩ := List.getElem_of_mem hc
  have hnat : (UInt16.ofNat n).toNat = n := UInt16.toNat_ofNat_of_lt' (Nat.lt_of_lt_of_le hn hok.size)
  have hvalid : ∀ d ∈ List.replicate prepared.digits.length (UInt16.ofNat n),
      d.toNat < profile.alphabetChars.length := by
    intro d hd
    rw [(List.mem_replicate.mp hd).2, hnat]
    exact hn
  obtain ⟨text, htext, hlength⟩ := haccepted.laid.fill hok List.length_replicate hvalid
  refine ⟨_, text, List.length_replicate, hvalid, htext, hlength, List.all_eq_true.mpr fun c' hc' => ?_⟩
  rcases htext.mem_iff.mp hc' with ⟨d, hd, hd'⟩ | ⟨entry, hentry, rfl⟩
  · rw [(List.mem_replicate.mp hd).2, hnat, List.getElem?_eq_getElem hn, hget] at hd'
    cases hd'
    exact hblank
  · exact hkept _ (haccepted.laid.mem_iff.mpr (Or.inr ⟨entry, hentry, rfl⟩))
      (haccepted.laid.kept_preserved entry hentry)

/-- FF1 that turns an accepted text into blank text. -/
theorem exists_blanking (hok : ProfileOk profile) (hradix : cipher.radix = profile.alphabetChars.length)
    (haccepted : Accepted profile value prepared) (hmay : MayBlank profile value) :
    ∃ ff1 text, ff1.Permutes ∧ fpeTransform ff1 profile prepared true cipher = .ok text ∧
      text.toList.all isWhitespace = true := by
  obtain ⟨output, text, hlength, hvalid, hlaid, htext, hblank⟩ := blank_of_mayBlank hok haccepted hmay
  refine ⟨swapping profile.alphabetChars.length prepared.digits output, String.ofList text,
    swapping_permutes hlength.symm haccepted.laid.digits_lt hvalid, ?_, by rwa [String.toList_ofList]⟩
  refine fpeTransform_ok_iff.mpr ⟨output, ?_, ?_⟩
  · simp [Ff1.run, swapping, hradix, Equiv.swap_apply_left]
  · rw [String.toList_ofList, haccepted.total, ← htext]
    exact rebuild_of_laid hlaid

end Transforms

/-! ## Round trips -/

/-- The contexts of a profile. -/
inductive ContextOf (newFf1 : NewFf1) (hkdf : Hkdf) (profile : FpeProfile) : FpeContext → Prop
  | legacy : ContextOf newFf1 hkdf profile (.fromProfile profile)
  | subject {subject : String} {seed : List UInt8} {context : FpeContext} :
      FpeContext.withSubject newFf1 hkdf profile subject seed = .ok context → ContextOf newFf1 hkdf profile context

/-- A text goes through and back, in both directions, in the context and with the functions of its profile. -/
structure RoundTrips (ff1 : Ff1) (context : FpeContext) (value : String) : Prop where
  encrypt : ∀ text, context.encrypt ff1 value = .ok text → context.decrypt ff1 text = .ok value
  decrypt : ∀ text, context.decrypt ff1 value = .ok text → context.encrypt ff1 text = .ok value
  profileEncrypt : ∀ text, fpeEncrypt ff1 context.profile value = .ok text →
  fpeDecrypt ff1 context.profile text = .ok value
  profileDecrypt : ∀ text, fpeDecrypt ff1 context.profile value = .ok text →
  fpeEncrypt ff1 context.profile text = .ok value

/-- The context has a cipher, and the value is accepted. -/
def FpeContext.Takes (context : FpeContext) (value : String) : Prop :=
  (∃ cipher, context.cipher = .ok cipher) ∧ ∃ prepared, parseFpeValueDigits "plaintext" value context.profile =
    .ok prepared

section RoundTrips

variable {newFf1 : NewFf1} {hkdf : Hkdf} {context : FpeContext} {ff1 : Ff1} {cipher : Ff1Cipher} {value text : String}

theorem requireCipher_ok_iff : profile.requireCipher = .ok cipher ↔ profile.cipher = some cipher := by
  unfold FpeProfile.requireCipher
  cases profile.cipher with
  | none => simp
  | some c => simp

theorem stored_of_subject {subject : String} (h : validateSubjectMode profile (some subject) = .ok ()) :
    profile.subjectMode = .stored := by
  obtain ⟨-, h⟩ := Loop.bind_unit_eq_ok.mp h
  cases hmode : profile.subjectMode with
  | none =>
    rw [hmode] at h
    cases h
  | stored => rfl

/-- The cipher of a context has the radix of the alphabet; without a subject it is the cipher of the profile. -/
theorem contextOf_cipher (hok : ProfileOk profile) (h : ContextOf newFf1 hkdf profile context) :
    context.profile = profile ∧ (∀ cipher, context.cipher = .ok cipher → cipher.radix = profile.alphabetChars.length) ∧
      ∀ cipher, profile.requireCipher = .ok cipher → context.cipher = .ok cipher := by
  cases h with
  | legacy =>
    refine ⟨rfl, fun cipher h => ?_, fun cipher h => ?_⟩
    · obtain ⟨-, h⟩ := Loop.bind_unit_eq_ok.mp h
      exact hok.radix cipher (requireCipher_ok_iff.mp h)
    · have hmode : profile.subjectMode = .none := hok.mode.mpr (by rw [requireCipher_ok_iff.mp h]; rfl)
      refine Loop.bind_unit_eq_ok.mpr ⟨?_, h⟩
      simp [FpeContext.validateMode, validateSubjectMode, FpeContext.subject, FpeContext.fromProfile, hmode, bind,
        Except.bind]
  | subject h =>
    obtain ⟨hmode, h⟩ := Loop.bind_unit_eq_ok.mp h
    obtain ⟨key, -, h⟩ := Loop.bind_eq_ok.mp h
    obtain ⟨subjectCipher, hcipher, h⟩ := Loop.bind_eq_ok.mp h
    obtain ⟨authKey, -, h⟩ := Loop.bind_eq_ok.mp h
    cases h
    refine ⟨rfl, fun cipher h => ?_, fun cipher h => ?_⟩
    · obtain ⟨-, h⟩ := Loop.bind_unit_eq_ok.mp h
      cases h
      exact buildFpeCipher_radix hcipher
    · have hnone := hok.mode.mpr (by rw [requireCipher_ok_iff.mp h]; rfl)
      rw [stored_of_subject hmode] at hnone
      cases hnone

/-- One direction, with the cipher at hand. -/
theorem transform_trip (hok : ProfileOk profile) (hperm : ff1.Permutes)
    (hradix : cipher.radix = profile.alphabetChars.length) (hnot : ¬ MayBlank profile value) {field : String}
    {encrypt : Bool} {prepared : PreparedFpeValue}
    (hparse : parseFpeValueDigits field value profile = .ok prepared)
    (h : fpeTransform ff1 profile prepared encrypt cipher = .ok text) (field' : String) :
    ∃ prepared', parseFpeValueDigits field' text profile = .ok prepared' ∧
      fpeTransform ff1 profile prepared' (!encrypt) cipher = .ok value := by
  have haccepted := (parse_ok_iff hok).mp hparse
  have hvisible := visible_of_not_mayBlank hok hperm hradix haccepted h hnot
  obtain ⟨prepared', haccepted', hback⟩ := transform_back hok hperm hradix haccepted h hvisible
  exact ⟨prepared', (parse_ok_iff hok).mpr haccepted', hback⟩

theorem takes_of_parse (hok : ProfileOk context.profile) {field : String} {prepared : PreparedFpeValue}
    (hcipher : context.cipher = .ok cipher) (hparse : parseFpeValueDigits field value context.profile = .ok prepared) :
    context.Takes value :=
  ⟨⟨cipher, hcipher⟩, prepared, (parse_ok_iff hok).mpr ((parse_ok_iff hok).mp hparse)⟩

/-- `encrypt` and `decrypt` of a context. -/
theorem context_trip (hok : ProfileOk context.profile)
    (hradix : ∀ cipher, context.cipher = .ok cipher → cipher.radix = context.profile.alphabetChars.length)
    (hperm : ff1.Permutes) (hnot : context.Takes value → ¬ MayBlank context.profile value) (field field' : String)
    (encrypt : Bool) (h : (do
      let cipher ← context.cipher
      fpeTransform ff1 context.profile (← parseFpeValueDigits field value context.profile) encrypt cipher) = .ok text) :
    (do
      let cipher ← context.cipher
      fpeTransform ff1 context.profile (← parseFpeValueDigits field' text context.profile) (!encrypt) cipher) =
      .ok value := by
  obtain ⟨cipher, hcipher, h⟩ := Loop.bind_eq_ok.mp h
  obtain ⟨prepared, hparse, h⟩ := Loop.bind_eq_ok.mp h
  obtain ⟨prepared', hparse', hback⟩ :=
    transform_trip hok hperm (hradix cipher hcipher) (hnot (takes_of_parse hok hcipher hparse)) hparse h field'
  exact Loop.bind_eq_ok.mpr ⟨cipher, hcipher, Loop.bind_eq_ok.mpr ⟨prepared', hparse', hback⟩⟩

/-- `fpe_encrypt` and `fpe_decrypt` of the profile of a context. -/
theorem profile_trip (hok : ProfileOk context.profile)
    (hradix : ∀ cipher, context.cipher = .ok cipher → cipher.radix = context.profile.alphabetChars.length)
    (hrequire : ∀ cipher, context.profile.requireCipher = .ok cipher → context.cipher = .ok cipher)
    (hperm : ff1.Permutes) (hnot : context.Takes value → ¬ MayBlank context.profile value) (field field' : String)
    (encrypt : Bool) (h : (do
      let digits ← parseFpeValueDigits field value context.profile
      fpeTransform ff1 context.profile digits encrypt (← context.profile.requireCipher)) = .ok text) :
    (do
      let digits ← parseFpeValueDigits field' text context.profile
      fpeTransform ff1 context.profile digits (!encrypt) (← context.profile.requireCipher)) = .ok value := by
  obtain ⟨prepared, hparse, h⟩ := Loop.bind_eq_ok.mp h
  obtain ⟨cipher, hcipher, h⟩ := Loop.bind_eq_ok.mp h
  have hcipher' := hrequire cipher hcipher
  obtain ⟨prepared', hparse', hback⟩ :=
    transform_trip hok hperm (hradix cipher hcipher') (hnot (takes_of_parse hok hcipher' hparse)) hparse h field'
  exact Loop.bind_eq_ok.mpr ⟨prepared', hparse', Loop.bind_eq_ok.mpr ⟨cipher, hcipher, hback⟩⟩

theorem roundTrips_of_not_mayBlank (hok : ProfileOk profile) (hcontext : ContextOf newFf1 hkdf profile context)
    (hperm : ff1.Permutes) (hnot : context.Takes value → ¬ MayBlank profile value) : RoundTrips ff1 context value := by
  obtain ⟨rfl, hradix, hrequire⟩ := contextOf_cipher hok hcontext
  constructor
  · exact fun _ => context_trip hok hradix hperm hnot _ _ true
  · exact fun _ => context_trip hok hradix hperm hnot _ _ false
  · exact fun _ => profile_trip hok hradix hrequire hperm hnot _ _ true
  · exact fun _ => profile_trip hok hradix hrequire hperm hnot _ _ false

/-- Texts go through and back for every FF1 exactly when they cannot become blank. -/
theorem round_trip_iff {hooks : FpeHooks} {inputs : List FpeProfileInput} {state : ProfilesState FpeProfile}
    {name : String} (hstate : validateFpeProfiles newFf1 hooks inputs = .ok state)
    (hget : state.get name = some profile)
    (hcontext : ContextOf newFf1 hkdf profile context) (value : String) :
    (∀ ff1 : Ff1, ff1.Permutes → RoundTrips ff1 context value) ↔ (context.Takes value → ¬ MayBlank profile value) := by
  have hok := profileOk_of_validate hstate profile (ProfilesState.mem_of_get hget)
  constructor
  · rintro h ⟨⟨cipher, hcipher⟩, prepared, hparse⟩ hmay
    obtain ⟨rfl, hradix, -⟩ := contextOf_cipher hok hcontext
    obtain ⟨ff1, text, hperm, htransform, hblank⟩ :=
      exists_blanking hok (hradix cipher hcipher) ((parse_ok_iff hok).mp hparse) hmay
    have hencrypt : context.encrypt ff1 value = .ok text :=
      Loop.bind_eq_ok.mpr ⟨cipher, hcipher, Loop.bind_eq_ok.mpr ⟨prepared, hparse, htransform⟩⟩
    obtain ⟨cipher', -, hdecrypt⟩ := Loop.bind_eq_ok.mp ((h ff1 hperm).encrypt text hencrypt)
    obtain ⟨prepared', hparse', -⟩ := Loop.bind_eq_ok.mp hdecrypt
    have hvisible := ((parse_ok_iff hok).mp hparse').text.1
    rw [hblank] at hvisible
    cases hvisible
  · intro h ff1 hperm
    exact roundTrips_of_not_mayBlank hok hcontext hperm h

end RoundTrips

/-! ## Examples -/

def exampleKid : String := "aaaaaaaaaaaaaaaaaaaaaaaaaaaaaaaaaaaaaaaaaaaaaaaaaaaaaaaaaaaaaaaa"

def exampleNewFf1 : NewFf1 := fun _ _ => .ok ()

def exampleHooks : FpeHooks :=
  ⟨fun kid => kid = exampleKid, fun _ => .ok (List.replicate 32 7), fun _ => .ok (List.replicate 32 9)⟩

def exampleInput (alphabet : String) : FpeProfileInput where
  name := "patient-id"
  fpeVersion := "fpe-ff1-2025"
  alphabet := some alphabet
  alphabetPreset := none
  letterCase := none
  preserveCharacters := some "-"
  authenticated := false
  subjectMode := .none
  minLen := 6
  maxLen := 32
  tweakAad := "tenant=acme;field=patient_id;version=1"
  kid := exampleKid

/-- Digits with separators. -/
theorem round_trip_iff_example : ∃ state profile,
    validateFpeProfiles exampleNewFf1 exampleHooks [exampleInput "0123456789"] = .ok state ∧
    state.get "patient-id" = some profile ∧ (FpeContext.fromProfile profile).Takes "001-234-567" ∧
      ∀ ff1 : Ff1, ff1.Permutes → RoundTrips ff1 (.fromProfile profile) "001-234-567" := by
  refine ⟨_, _, rfl, rfl, ⟨⟨_, rfl⟩, _, rfl⟩, ?_⟩
  refine (@round_trip_iff _ exampleNewFf1 (fun _ _ _ _ => .ok []) _ exampleHooks [exampleInput "0123456789"] _
    "patient-id" rfl rfl .legacy _).mpr ?_
  rintro - ⟨⟨c, hc, hblank⟩, -⟩
  have hvisible : ("0123456789".toList.all fun c => !isWhitespace c) = true := rfl
  rw [List.all_eq_true] at hvisible
  simpa [hblank] using hvisible c hc

/-- An alphabet with a space: one value becomes blank, which is not decrypted. -/
theorem blank_refused : ∃ state profile, validateFpeProfiles exampleNewFf1 exampleHooks [exampleInput " 123456789"] =
    .ok state ∧ state.get "patient-id" = some profile ∧
      (swapping 10 (List.replicate 6 9) (List.replicate 6 0)).Permutes ∧
      fpeEncrypt (swapping 10 (List.replicate 6 9) (List.replicate 6 0)) profile "999999" = .ok "      " ∧
      fpeDecrypt (swapping 10 (List.replicate 6 9) (List.replicate 6 0)) profile "      " =
        .error (.invalidInput "ciphertext must not be empty") ∧
      ¬ RoundTrips (swapping 10 (List.replicate 6 9) (List.replicate 6 0)) (.fromProfile profile) "999999" := by
  have hlt : ∀ n : UInt16, n.toNat < 10 → ∀ d ∈ List.replicate 6 n, d.toNat < 10 := by
    intro n hn d hd
    rw [List.eq_of_mem_replicate hd]
    exact hn
  refine ⟨_, _, rfl, rfl, swapping_permutes rfl (hlt 9 (by decide)) (hlt 0 (by decide)), rfl, rfl, fun h => ?_⟩
  have hback := h.profileEncrypt "      " rfl
  cases hback

end Vectis.Core.Fpe

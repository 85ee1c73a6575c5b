import Vectis.Core.Validation
import Vectis.Lib.Loop

/-!
# Associated data

`key=value` fields joined by semicolons (`core/validation.rs`), without escapes: keys and values hold neither delimiter.

- `parseAadFields_build`: the fields are read back in order;
- `build_parseAadFields`: a text that is read is the text of its fields;
- `aad_unambiguous`: both, and equal texts come from equal fields.
-/

namespace Vectis.Core.Validation

/-! ## Building and parsing -/

abbrev AadFields := List (String × String)

def aadPart (field : String × String) : List Char := field.1.toList ++ '=' :: field.2.toList

def buildAad (fields : AadFields) : String := String.ofList ([';'].intercalate (fields.map aadPart))

def rejectAadDelimiters (field value : String) : Res Unit :=
  if ';' ∈ value.toList || '=' ∈ value.toList then .error (.invalidInput (field ++ " must not contain ';' or '='"))
  else .ok ()

def validateAadValue (field value : String) : Res Unit := do
  validateTextField field value
  rejectAadDelimiters field value

def isAsciiAlphanumeric (c : Char) : Bool :=
  isAsciiDigit c || (0x61 ≤ c.val && c.val ≤ 0x7a) || (0x41 ≤ c.val && c.val ≤ 0x5a)

/-- The characters of keys and labels. -/
def isKeyChar (c : Char) : Bool := isAsciiAlphanumeric c || c = '_' || c = '.' || c = '-'

def validateAadKey (field key : String) : Res Unit := do
  validateTextField field key
  if key.toList.all isKeyChar then .ok () else .error (.invalidInput (field ++ " contains invalid characters"))

def validateAadFields : AadFields → Res Unit
  | [] => .ok ()
  | (key, value) :: fields => do
    validateAadKey "aad key" key
    validateAadValue ("aad." ++ key) value
    validateAadFields fields

def buildValidatedAad (fields : AadFields) : Res String := do
  validateAadFields fields
  .ok (buildAad fields)

def parseAadPart (part : List Char) : Res (String × String) :=
  match part.splitOn '=' with
  | [key, value] => do
    validateAadKey "aad key" (String.ofList key)
    validateAadValue "aad value" (String.ofList value)
    .ok (String.ofList key, String.ofList value)
  | _ => .error (.invalidInput "aad must contain key=value fields")

def parseAadFields (aad : String) : Res AadFields := do
  validateTextField "aad" aad
  (aad.toList.splitOn ';').mapM parseAadPart

def aadField (fields : AadFields) (key : String) : Res String :=
  match fields.find? fun field => field.1 = key with
  | some field => .ok field.2
  | none => .error (.invalidInput ("aad missing " ++ key))

/-! ## What the checks accept -/

theorem validateTextField_ok_iff {field value : String} : validateTextField field value = .ok () ↔
    value.toList.all isWhitespace = false ∧ value.toList.any isControl = false := by
  unfold validateTextField
  cases value.toList.all isWhitespace <;> cases value.toList.any isControl <;> simp

/-- A key or a value that was accepted, whatever the name of the field. -/
structure AadOk (field : String × String) : Prop where
  key : ∀ name, validateAadKey name field.1 = .ok ()
  value : ∀ name, validateAadValue name field.2 = .ok ()

theorem validateAadKey_ok_iff {field key : String} : validateAadKey field key = .ok () ↔
    (key.toList.all isWhitespace = false ∧ key.toList.any isControl = false) ∧ key.toList.all isKeyChar = true := by
  unfold validateAadKey
  rw [Loop.bind_eq_ok]
  constructor
  · rintro ⟨⟨⟩, htext, h⟩
    split at h
    · rename_i hall
      exact ⟨validateTextField_ok_iff.mp htext, hall⟩
    · cases h
  · rintro ⟨htext, hall⟩
    exact ⟨(), validateTextField_ok_iff.mpr htext, if_pos hall⟩

theorem validateAadValue_ok_iff {field value : String} : validateAadValue field value = .ok () ↔
    (value.toList.all isWhitespace = false ∧ value.toList.any isControl = false) ∧
      ';' ∉ value.toList ∧ '=' ∉ value.toList := by
  unfold validateAadValue
  rw [Loop.bind_eq_ok]
  constructor
  · rintro ⟨⟨⟩, htext, h⟩
    unfold rejectAadDelimiters at h
    split at h
    · cases h
    · rename_i hnot
      exact ⟨validateTextField_ok_iff.mp htext, by simpa using hnot⟩
  · rintro ⟨htext, hsemi, heq⟩
    exact ⟨(), validateTextField_ok_iff.mpr htext, by simp [rejectAadDelimiters, hsemi, heq]⟩

theorem aadOk_of {field : String × String} {n m : String} (hkey : validateAadKey n field.1 = .ok ())
    (hvalue : validateAadValue m field.2 = .ok ()) : AadOk field :=
  ⟨fun _ => validateAadKey_ok_iff.mpr (validateAadKey_ok_iff.mp hkey),
    fun _ => validateAadValue_ok_iff.mpr (validateAadValue_ok_iff.mp hvalue)⟩

theorem validateAadFields_ok_iff : ∀ {fields : AadFields}, validateAadFields fields = .ok () ↔
    ∀ field ∈ fields, AadOk field
  | [] => by simp [validateAadFields]
  | (key, value) :: fields => by
    unfold validateAadFields
    rw [Loop.bind_eq_ok, List.forall_mem_cons]
    constructor
    · rintro ⟨⟨⟩, hkey, h⟩
      obtain ⟨⟨⟩, hvalue, h⟩ := Loop.bind_eq_ok.mp h
      exact ⟨aadOk_of hkey hvalue, validateAadFields_ok_iff.mp h⟩
    · rintro ⟨hfield, hrest⟩
      exact ⟨(), hfield.key _, Loop.bind_eq_ok.mpr ⟨(), hfield.value _, validateAadFields_ok_iff.mpr hrest⟩⟩

theorem aadOk_of_validate {field : String × String} (h : validateAadFields [field] = .ok ()) : AadOk field :=
  validateAadFields_ok_iff.mp h field (List.mem_singleton_self field)

theorem buildValidatedAad_ok_iff {fields : AadFields} {aad : String} :
    buildValidatedAad fields = .ok aad ↔ (∀ field ∈ fields, AadOk field) ∧ buildAad fields = aad := by
  unfold buildValidatedAad
  rw [Loop.bind_eq_ok]
  constructor
  · rintro ⟨⟨⟩, hfields, h⟩
    exact ⟨validateAadFields_ok_iff.mp hfields, Except.ok.inj h⟩
  · rintro ⟨hfields, rfl⟩
    exact ⟨(), validateAadFields_ok_iff.mpr hfields, rfl⟩

/-! ## Round trips -/

theorem keyChar_ne {c : Char} (h : isKeyChar c = true) : c ≠ ';' ∧ c ≠ '=' := by
  constructor <;> rintro rfl <;> exact absurd h (by decide)

theorem AadOk.delimiters {field : String × String} (h : AadOk field) :
    (';' ∉ field.1.toList ∧ '=' ∉ field.1.toList) ∧ ';' ∉ field.2.toList ∧ '=' ∉ field.2.toList := by
  have hkey := (validateAadKey_ok_iff.mp (h.key "")).2
  have hchars : ∀ c ∈ field.1.toList, c ≠ ';' ∧ c ≠ '=' := fun c hc => keyChar_ne (List.all_eq_true.mp hkey c hc)
  exact ⟨⟨fun hc => (hchars _ hc).1 rfl, fun hc => (hchars _ hc).2 rfl⟩, (validateAadValue_ok_iff.mp (h.value "")).2⟩

theorem semicolon_not_mem_aadPart {field : String × String} (h : AadOk field) : ';' ∉ aadPart field := by
  obtain ⟨⟨hkey, -⟩, hvalue, -⟩ := h.delimiters
  simp [aadPart, hkey, hvalue]

theorem parseAadPart_aadPart {field : String × String} (h : AadOk field) :
    parseAadPart (aadPart field) = .ok field := by
  obtain ⟨⟨-, hkey⟩, -, hvalue⟩ := h.delimiters
  have hsplit : (aadPart field).splitOn '=' = [field.1.toList, field.2.toList] := by
    rw [aadPart, List.splitOn_append_cons_self_of_not_mem hkey, List.splitOn_eq_singleton hvalue]
  unfold parseAadPart
  rw [hsplit]
  simp only [String.ofList_toList, h.key, h.value, bind, Except.bind]

/-- A part that is read is the text of its field. -/
theorem parseAadPart_ok {part : List Char} {field : String × String} (h : parseAadPart part = .ok field) :
    AadOk field ∧ aadPart field = part := by
  unfold parseAadPart at h
  split at h
  · rename_i key value hsplit
    obtain ⟨⟨⟩, hkey, h⟩ := Loop.bind_eq_ok.mp h
    obtain ⟨⟨⟩, hvalue, h⟩ := Loop.bind_eq_ok.mp h
    cases h
    refine ⟨aadOk_of hkey hvalue, ?_⟩
    have hjoin : ['='].intercalate (part.splitOn '=') = part := List.intercalate_splitOn '='
    rw [hsplit] at hjoin
    simpa [aadPart, List.intercalate] using hjoin
  · cases h

theorem mapM_parseAadPart_ok : ∀ {parts : List (List Char)} {fields : AadFields}, parts.mapM parseAadPart = .ok fields →
    (∀ field ∈ fields, AadOk field) ∧ fields.map aadPart = parts
  | [], fields, h => by cases h; simp
  | part :: parts, fields, h => by
    rw [List.mapM_cons] at h
    obtain ⟨field, hfield, h⟩ := Loop.bind_eq_ok.mp h
    obtain ⟨rest, hrest, h⟩ := Loop.bind_eq_ok.mp h
    cases h
    obtain ⟨hok, hpart⟩ := parseAadPart_ok hfield
    obtain ⟨hoks, hparts⟩ := mapM_parseAadPart_ok hrest
    exact ⟨List.forall_mem_cons.mpr ⟨hok, hoks⟩, by rw [List.map_cons, hpart, hparts]⟩

theorem mem_buildAad {fields : AadFields} {c : Char} (hc : c ∈ (buildAad fields).toList) :
    c = ';' ∨ ∃ field ∈ fields, c ∈ aadPart field := by
  rw [buildAad, String.toList_ofList] at hc
  induction fields with
  | nil => simp [List.intercalate] at hc
  | cons field fields ih =>
    cases fields with
    | nil => exact Or.inr ⟨field, List.mem_cons_self, by simpa [List.intercalate] using hc⟩
    | cons next fields =>
      rw [List.map_cons, List.map_cons, List.intercalate_cons_cons] at hc
      rcases List.mem_append.mp hc with hc | hc
      · rcases List.mem_append.mp hc with hc | hc
        · exact Or.inr ⟨field, List.mem_cons_self, hc⟩
        · exact Or.inl (List.mem_singleton.mp hc)
      · rcases ih hc with h | ⟨other, hother, h⟩
        · exact Or.inl h
        · exact Or.inr ⟨other, List.mem_cons_of_mem _ hother, h⟩

/-- The text of accepted fields is a text field. -/
theorem validateTextField_buildAad {field : String × String} {fields : AadFields} (hok : ∀ f ∈ field :: fields, AadOk f)
    (name : String) : validateTextField name (buildAad (field :: fields)) = .ok () := by
  refine validateTextField_ok_iff.mpr ⟨?_, ?_⟩
  · -- the first key is not blank
    rw [List.all_eq_false]
    have hkey := (validateAadKey_ok_iff.mp ((hok field List.mem_cons_self).key "")).1.1
    obtain ⟨c, hc, hblank⟩ := List.all_eq_false.mp hkey
    refine ⟨c, ?_, hblank⟩
    have hpart : c ∈ aadPart field := List.mem_append_left _ hc
    rw [buildAad, String.toList_ofList, List.map_cons]
    cases fields with
    | nil => simpa [List.intercalate] using hpart
    | cons next fields => simp [List.intercalate_cons_cons, hpart]
  · rw [List.any_eq_false]
    intro c hc
    rcases mem_buildAad hc with rfl | ⟨f, hf, hpart⟩
    · decide
    · have hkey := (validateAadKey_ok_iff.mp ((hok f hf).key "")).1.2
      have hvalue := (validateAadValue_ok_iff.mp ((hok f hf).value "")).1.2
      rcases List.mem_append.mp hpart with hpart | hpart
      · exact List.any_eq_false.mp hkey c hpart
      · rcases List.mem_cons.mp hpart with rfl | hpart
        · decide
        · exact List.any_eq_false.mp hvalue c hpart

theorem parseAadFields_build {fields : AadFields} {aad : String} (hne : fields ≠ [])
    (h : buildValidatedAad fields = .ok aad) : parseAadFields aad = .ok fields := by
  obtain ⟨hok, rfl⟩ := buildValidatedAad_ok_iff.mp h
  have hsplit : (buildAad fields).toList.splitOn ';' = fields.map aadPart := by
    rw [buildAad, String.toList_ofList]
    refine List.splitOn_intercalate ';' ?_ (by simpa using hne)
    intro part hpart
    obtain ⟨field, hfield, rfl⟩ := List.mem_map.mp hpart
    exact semicolon_not_mem_aadPart (hok field hfield)
  have htext : validateTextField "aad" (buildAad fields) = .ok () := by
    cases fields with
    | nil => exact absurd rfl hne
    | cons field fields => exact validateTextField_buildAad hok "aad"
  unfold parseAadFields
  rw [htext, hsplit]
  show (fields.map aadPart).mapM parseAadPart = .ok fields
  rw [List.mapM_map]
  have hparts := Loop.mapM_ok (f := parseAadPart ∘ aadPart) (g := id) fields fun field hfield =>
    parseAadPart_aadPart (hok field hfield)
  rw [List.map_id] at hparts
  exact hparts

theorem build_parseAadFields {fields : AadFields} {aad : String} (h : parseAadFields aad = .ok fields) :
    buildValidatedAad fields = .ok aad := by
  obtain ⟨⟨⟩, -, h⟩ := Loop.bind_eq_ok.mp h
  obtain ⟨hok, hparts⟩ := mapM_parseAadPart_ok h
  refine buildValidatedAad_ok_iff.mpr ⟨hok, ?_⟩
  rw [buildAad, hparts, List.intercalate_splitOn, String.ofList_toList]

/-- Only the empty list has the empty text. -/
theorem buildAad_ne_empty {field : String × String} {fields : AadFields} : buildAad (field :: fields) ≠ "" := by
  intro h
  have hlist : [';'].intercalate ((field :: fields).map aadPart) = [] := String.ofList_eq_empty_iff.mp h
  cases fields with
  | nil => simp [List.intercalate, aadPart] at hlist
  | cons next fields => simp [List.intercalate_cons_cons, aadPart] at hlist

/-- Equal texts come from equal fields. -/
theorem buildValidatedAad_injective {fields₁ fields₂ : AadFields} {aad : String}
    (h₁ : buildValidatedAad fields₁ = .ok aad) (h₂ : buildValidatedAad fields₂ = .ok aad) : fields₁ = fields₂ := by
  have hnil : ∀ {fields : AadFields}, buildValidatedAad fields = .ok aad → fields = [] → aad = "" := by
    rintro _ h rfl
    exact (buildValidatedAad_ok_iff.mp h).2.symm
  have hempty : ∀ {fields : AadFields}, buildValidatedAad fields = .ok aad → aad = "" → fields = [] := by
    intro fields h haad
    cases fields with
    | nil => rfl
    | cons field fields => exact absurd ((buildValidatedAad_ok_iff.mp h).2.trans haad) buildAad_ne_empty
  by_cases hne : fields₁ = []
  · rw [hne, hempty h₂ (hnil h₁ hne)]
  · have hne₂ : fields₂ ≠ [] := fun h => hne (hempty h₁ (hnil h₂ h))
    exact Except.ok.inj ((parseAadFields_build hne h₁).symm.trans (parseAadFields_build hne₂ h₂))

/-- Equal texts come from equal fields, fields are read back from their text, and a text is that of the fields read. -/
theorem aad_unambiguous :
    (∀ fields₁ fields₂ aad, buildValidatedAad fields₁ = .ok aad → buildValidatedAad fields₂ = .ok aad →
      fields₁ = fields₂) ∧
    (∀ fields aad, fields ≠ [] → buildValidatedAad fields = .ok aad → parseAadFields aad = .ok fields) ∧
    ∀ aad fields, parseAadFields aad = .ok fields → buildValidatedAad fields = .ok aad :=
  ⟨fun _ _ _ => buildValidatedAad_injective, fun _ _ => parseAadFields_build, fun _ _ => build_parseAadFields⟩

theorem aad_unambiguous_example :
    parseAadFields "kid=k1;subject=a b" = .ok [("kid", "k1"), ("subject", "a b")] ∧
    buildValidatedAad [("kid", "k1"), ("subject", "a b")] = .ok "kid=k1;subject=a b" := by
  have hbuild : buildValidatedAad [("kid", "k1"), ("subject", "a b")] = .ok "kid=k1;subject=a b" := rfl
  exact ⟨aad_unambiguous.2.1 _ _ (by decide) hbuild, hbuild⟩

end Vectis.Core.Validation

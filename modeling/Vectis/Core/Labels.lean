import Vectis.Core.Aad

/-!
# Names and labels of profiles

Names that go into associated data, and contexts of the form `key=value;key=value` (`core/validation.rs`).

- `validateLabelItems_ok`: the labels of an accepted text have keys of key characters, and values without delimiters;
- a label value need not have a character other than whitespace, which associated data requires.
-/

namespace Vectis.Core.Validation

/-- `str::split_once`. -/
def splitOnce (delimiter : Char) : List Char → Option (List Char × List Char)
  | [] => none
  | c :: cs =>
    if c = delimiter then some ([], cs)
    else (splitOnce delimiter cs).map fun parts => (c :: parts.1, parts.2)

def validateAadConfigName (field value : String) : Res Unit := do
  validateConfigName field value
  rejectAadDelimiters field value

/-- The loop over the labels, with the keys seen so far. -/
def validateLabelItems (field : String) : List (List Char) → List (List Char) → Res Unit
  | _, [] => .ok ()
  | seen, label :: labels =>
    match splitOnce '=' label with
    | none => .error (.invalidInput (field ++ " labels must use key=value format"))
    | some (key, labelValue) =>
      if key.isEmpty then .error (.invalidInput (field ++ " label key must not be empty"))
      else if labelValue.isEmpty then .error (.invalidInput (field ++ " label value must not be empty"))
      else if '=' ∈ labelValue then .error (.invalidInput (field ++ " label value must not contain '='"))
      else if !key.all isKeyChar then .error (.invalidInput (field ++ " label key contains invalid characters"))
      else if key ∈ seen then .error (.invalidInput (field ++ " label keys must be unique"))
      else validateLabelItems field (key :: seen) labels

/-- `value.split(';')`. -/
def splitLabels (value : String) : List (List Char) := value.toList.splitOn ';'

def validateLabels (field value : String) (maxChars : Nat) : Res Unit := do
  validateBoundedTextField field value maxChars
  validateLabelItems field [] (splitLabels value)

/-! ## What the checks accept -/

theorem splitOnce_some : ∀ {text key value : List Char} {delimiter : Char},
    splitOnce delimiter text = some (key, value) ↔ text = key ++ delimiter :: value ∧ delimiter ∉ key
  | [], key, value, delimiter => by simp [splitOnce]
  | c :: cs, key, value, delimiter => by
    unfold splitOnce
    by_cases hc : c = delimiter
    · subst hc
      cases key with
      | nil => simp
      | cons k key =>
        simp only [↓reduceIte, Option.some.injEq, Prod.mk.injEq, List.nil_eq, reduceCtorEq, false_and, List.cons_append,
          List.cons.injEq, List.mem_cons, not_or, false_iff]
        rintro ⟨⟨rfl, -⟩, hne, -⟩
        exact hne rfl
    · rw [if_neg hc, Option.map_eq_some_iff]
      constructor
      · rintro ⟨⟨key', value'⟩, h, heq⟩
        obtain ⟨htext, hnot⟩ := splitOnce_some.mp h
        cases heq
        exact ⟨by rw [htext]; rfl, by simp [hnot, Ne.symm hc]⟩
      · rintro ⟨htext, hnot⟩
        cases key with
        | nil => exact absurd (List.cons.inj htext).1 hc
        | cons k key =>
          obtain ⟨rfl, hrest⟩ := List.cons.inj htext
          exact ⟨(key, value), splitOnce_some.mpr ⟨hrest, fun h => hnot (List.mem_cons_of_mem _ h)⟩, rfl⟩

/-- A label that was accepted, as a key and a value. -/
structure LabelOk (label key value : List Char) : Prop where
  split : splitOnce '=' label = some (key, value)
  keyNonempty : key ≠ []
  valueNonempty : value ≠ []
  single : '=' ∉ value
  keyChars : key.all isKeyChar = true

theorem validateLabelItems_ok {field : String} : ∀ {labels seen : List (List Char)},
    validateLabelItems field seen labels = .ok () → ∀ label ∈ labels, ∃ key value, LabelOk label key value
  | [], _, _, _, hmem => by cases hmem
  | label :: labels, seen, h, label', hmem => by
    unfold validateLabelItems at h
    split at h
    · cases h
    · rename_i key value hsplit
      simp only [Loop.guard_eq_ok, Bool.not_eq_true', Bool.not_eq_false, List.isEmpty_iff] at h
      obtain ⟨hkey, hvalue, hsingle, hchars, -, h⟩ := h
      rcases List.mem_cons.mp hmem with rfl | hmem
      · exact ⟨key, value, hsplit, hkey, hvalue, hsingle, hchars⟩
      · exact validateLabelItems_ok h label' hmem

theorem validateBoundedTextField_ok_iff {field value : String} {maxChars : Nat} :
    validateBoundedTextField field value maxChars = .ok () ↔
      (value.toList.all isWhitespace = false ∧ value.toList.any isControl = false) ∧ value.length ≤ maxChars := by
  unfold validateBoundedTextField
  rw [Loop.bind_unit_eq_ok, validateTextField_ok_iff, Loop.guard_eq_ok]
  simp only [Nat.not_lt, and_true, gt_iff_lt]

/-- The name of the field is only in the messages. -/
theorem validateLabelItems_field {field field' : String} : ∀ {labels seen : List (List Char)},
    validateLabelItems field seen labels = .ok () → validateLabelItems field' seen labels = .ok ()
  | [], _, _ => rfl
  | label :: labels, seen, h => by
    unfold validateLabelItems at h ⊢
    split at h
    · cases h
    · rename_i key value hsplit
      simp only [Loop.guard_eq_ok] at h ⊢
      obtain ⟨hkey, hvalue, hsingle, hchars, hseen, h⟩ := h
      exact ⟨hkey, hvalue, hsingle, hchars, hseen, validateLabelItems_field h⟩

theorem validateLabels_field {field field' value : String} {maxChars : Nat}
    (h : validateLabels field value maxChars = .ok ()) :
    validateLabels field' value maxChars = .ok () := by
  obtain ⟨htext, hitems⟩ := Loop.bind_unit_eq_ok.mp h
  refine Loop.bind_unit_eq_ok.mpr ⟨?_, validateLabelItems_field hitems⟩
  exact validateBoundedTextField_ok_iff.mpr (validateBoundedTextField_ok_iff.mp htext)

/-- A piece holds characters of the text, and not the one it is cut at. -/
theorem mem_splitOn {delimiter : Char} : ∀ {text piece : List Char}, piece ∈ text.splitOn delimiter →
    (∀ c ∈ piece, c ∈ text) ∧ delimiter ∉ piece
  | [], piece, h => by simp_all
  | c :: text, piece, h => by
    rw [List.splitOn_cons_eq_if_modifyHead] at h
    split at h
    · rcases List.mem_cons.mp h with rfl | h
      · simp
      · obtain ⟨hmem, hnot⟩ := mem_splitOn h
        exact ⟨fun c' hc' => List.mem_cons_of_mem _ (hmem c' hc'), hnot⟩
    · rename_i hc
      cases hsplit : text.splitOn delimiter with
      | nil => exact absurd hsplit (List.splitOn_ne_nil _ _)
      | cons first rest =>
        rw [hsplit, List.modifyHead_cons] at h
        have hpiece : ∀ piece ∈ first :: rest, (∀ c ∈ piece, c ∈ text) ∧ delimiter ∉ piece := fun piece hpiece =>
          mem_splitOn (hsplit ▸ hpiece)
        rcases List.mem_cons.mp h with rfl | h
        · obtain ⟨hmem, hnot⟩ := hpiece first List.mem_cons_self
          refine ⟨?_, ?_⟩
          · intro c' hc'
            rcases List.mem_cons.mp hc' with rfl | hc'
            · exact List.mem_cons_self
            · exact List.mem_cons_of_mem _ (hmem c' hc')
          · intro hmem'
            rcases List.mem_cons.mp hmem' with rfl | hmem'
            · exact hc (by simp)
            · exact hnot hmem'
        · obtain ⟨hmem, hnot⟩ := hpiece piece (List.mem_cons_of_mem _ h)
          exact ⟨fun c' hc' => List.mem_cons_of_mem _ (hmem c' hc'), hnot⟩

end Vectis.Core.Validation

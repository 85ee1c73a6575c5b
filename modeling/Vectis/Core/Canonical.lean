import Vectis.Core.Validation
import Vectis.Lib.Json.Order
import Vectis.Lib.Loop

/-!
# Canonical JSON

`canonical_json_v1` (`core/canonical.rs`) over the library that writes and reads JSON text, which is a parameter
(`SerdeJson`): a plain value is written as compact text, and read back as a value and as a typed one when none of its
keys is one that the library keeps for itself.

- `canonicalJson`: the text of a value whose entries come in any order;
- `unreserved_of_validate`: a value that was checked has no such key;
- `canonical_encoding`: values have the same text when they are the same up to the order of keys, and a value is read
  back from its text exactly when it is nested less deep than the reader allows.
-/

namespace Vectis.Core.Canonical

open Json Validation

/-- What `derive(Serialize, Deserialize)` gives a type. -/
structure Codec (T : Type) where
  toValue : T → Value
  fromValue : Value → Option T
  fromValue_toValue : ∀ t, fromValue (toValue t) = some t

/-- The nesting that `serde_json` reads back. -/
def recursionLimit : Nat := 128

/-- `validation::SERDE_JSON_PRIVATE_KEY_PREFIX`. -/
def serdeJsonPrivateKey : String := "$serde_json::private::"

def isReserved (key : String) : Bool := serdeJsonPrivateKey.toList.isPrefixOf key.toList

/-- No object has a key that `serde_json` reads as something else. -/
def Unreserved (value : Value) : Prop := value.allKeys (fun key => !isReserved key) = true

instance (value : Value) : Decidable (Unreserved value) := inferInstanceAs (Decidable (_ = true))

/-- `serde_json`: `to_vec` of a value, as text, and `from_str` for values and for typed values. -/
structure SerdeJson where
  toText : Value → String
  fromStr : String → Option Value
  fromStrAs : ∀ {T : Type}, Codec T → String → Option T
  fromStr_toText : ∀ value, value.plain = true → Unreserved value → value.depth < recursionLimit →
    fromStr (toText value) = some value
  fromStrAs_toText : ∀ {T : Type} (codec : Codec T) (t : T), (codec.toValue t).plain = true →
    Unreserved (codec.toValue t) → (codec.toValue t).depth < recursionLimit →
    fromStrAs codec (toText (codec.toValue t)) = some t
  toText_plain : ∀ value, value.plain = true → toText value = String.ofList value.render

/-- Typed values read through values. -/
def SerdeJson.compact : SerdeJson where
  toText value := String.ofList value.render
  fromStr := parse recursionLimit
  fromStrAs codec text := (parse recursionLimit text).bind codec.fromValue
  fromStr_toText _ hplain _ hdepth := parse_render hplain hdepth
  fromStrAs_toText codec t hplain _ hdepth := by
    rw [parse_render hplain hdepth, Option.bind_some, codec.fromValue_toValue]
  toText_plain _ _ := rfl

/-- `validation::MAX_JSON_DEPTH`. -/
def maxJsonDepth : Nat := 128

def checkDepth (field : String) (depth : Nat) : Res Unit :=
  if depth > maxJsonDepth then .error (.invalidInput (field ++ " is nested too deeply")) else .ok ()

mutual

/-- `validate_canonical_json_value_at_depth`. -/
def validateValue (field : String) (depth : Nat) : Value → Res Unit
  | .array items => do
    checkDepth field depth
    validateItems field depth items
  | .object entries => do
    checkDepth field depth
    validateEntries field depth entries
  | _ => checkDepth field depth

def validateItems (field : String) (depth : Nat) : List Value → Res Unit
  | [] => .ok ()
  | item :: items => do
    validateValue field (depth + 1) item
    validateItems field depth items

def validateEntries (field : String) (depth : Nat) : List (String × Value) → Res Unit
  | [] => .ok ()
  | entry :: entries => do
    validateEntry field depth entry
    validateEntries field depth entries

def validateEntry (field : String) (depth : Nat) : String × Value → Res Unit
  | (key, value) =>
    if isReserved key then
      .error (.invalidInput (field ++ " contains a reserved JSON object key"))
    else validateValue field (depth + 1) value

end

def validateCanonicalJsonValue (field : String) (value : Value) : Res Unit := validateValue field 0 value

/-- The canonical text of a value; `to_value` puts the fields of a struct in the order of their names. -/
def canonicalJsonV1 (serde : SerdeJson) {T : Type} (codec : Codec T) (t : T) : Res String := do
  validateCanonicalJsonValue "canonical JSON" (codec.toValue t)
  .ok (serde.toText (codec.toValue t))

/-! ## Any order of keys -/

/-- `canonical_json_v1` of a value as it is serialized, with entries in any order: `to_value` builds sorted maps. -/
def canonicalJson (serde : SerdeJson) (tree : Value) : Res String := do
  validateCanonicalJsonValue "canonical JSON" tree.normalize
  .ok (serde.toText tree.normalize)

/-- The text is read back as the value, which has that text. -/
def RoundTrips (serde : SerdeJson) (tree : Value) (text : String) : Prop :=
  serde.fromStr text = some tree.normalize ∧ canonicalJson serde tree.normalize = .ok text

/-- `serde_json` refuses text that is nested too deep. -/
def SerdeJson.Limited (serde : SerdeJson) : Prop :=
  ∀ value, value.plain = true → Unreserved value → recursionLimit ≤ value.depth →
    serde.fromStr (serde.toText value) = none

theorem SerdeJson.compact_limited : SerdeJson.compact.Limited := fun _ hplain _ hdeep =>
  parse_deep hplain (by decide) hdeep

/-! ## Checked values -/

theorem checkDepth_bind {T : Type} {field : String} {depth : Nat} {rest : Res T} {t : T}
    (h : (checkDepth field depth >>= fun _ => rest) = .ok t) : rest = .ok t := by
  obtain ⟨⟨⟩, -, h⟩ := Loop.bind_eq_ok.mp h
  exact h

mutual

/-- The check goes through all objects. -/
theorem unreserved_of_validateValue {field : String} : ∀ (value : Value) (depth : Nat),
    validateValue field depth value = .ok () → Unreserved value
  | .null, _, _ => rfl
  | .bool _, _, _ => rfl
  | .number _, _, _ => rfl
  | .string _, _, _ => rfl
  | .array items, depth, h => unreserved_of_validateItems items depth (checkDepth_bind h)
  | .object entries, depth, h => unreserved_of_validateEntries entries depth (checkDepth_bind h)

theorem unreserved_of_validateItems {field : String} : ∀ (items : List Value) (depth : Nat),
    validateItems field depth items = .ok () → allKeysItems (fun key => !isReserved key) items = true
  | [], _, _ => rfl
  | item :: items, depth, h => by
    obtain ⟨hitem, hitems⟩ := Loop.bind_unit_eq_ok.mp h
    rw [allKeysItems, Bool.and_eq_true]
    exact ⟨unreserved_of_validateValue item _ hitem, unreserved_of_validateItems items depth hitems⟩

theorem unreserved_of_validateEntries {field : String} : ∀ (entries : List (String × Value)) (depth : Nat),
    validateEntries field depth entries = .ok () → allKeysEntries (fun key => !isReserved key) entries = true
  | [], _, _ => rfl
  | entry :: entries, depth, h => by
    obtain ⟨hentry, hentries⟩ := Loop.bind_unit_eq_ok.mp h
    rw [allKeysEntries, Bool.and_eq_true]
    exact ⟨unreserved_of_validateEntry entry depth hentry, unreserved_of_validateEntries entries depth hentries⟩

theorem unreserved_of_validateEntry {field : String} : ∀ (entry : String × Value) (depth : Nat),
    validateEntry field depth entry = .ok () → allKeysEntry (fun key => !isReserved key) entry = true
  | (key, value), depth, h => by
    rw [validateEntry] at h
    split at h
    · cases h
    · rename_i hkey
      have hvalue := unreserved_of_validateValue value _ h
      rw [allKeysEntry, Bool.and_eq_true]
      exact ⟨by simpa using hkey, hvalue⟩

end

theorem unreserved_of_validate {field : String} {value : Value} (h : validateCanonicalJsonValue field value = .ok ()) :
    Unreserved value :=
  unreserved_of_validateValue value 0 h

/-! ## Characters that are written in at most four bytes -/

theorem printable_of_control {s : String} (h : ∀ c ∈ s.toList, isControl c = false) : printable s = true := by
  refine List.all_eq_true.mpr fun c hc => decide_eq_true ?_
  have hnot := h c hc
  simp only [isControl, Bool.or_eq_false_iff, decide_eq_false_iff_not] at hnot
  have hval : ¬ c.val.toNat < 32 := fun hlt => hnot.1 (UInt32.lt_iff_toNat_lt.mpr hlt)
  show 0x20 ≤ c.val.toNat
  omega

theorem printable_hex {s : String} (h : s.toList.all isAsciiHexdigit = true) : printable s = true := by
  refine List.all_eq_true.mpr fun c hc => decide_eq_true ?_
  have hhex := List.all_eq_true.mp h c hc
  by_contra hlt
  have hnot : ∀ n : Fin 32, isAsciiHexdigit (Char.ofNat n) = false := by decide
  have hc' := hnot ⟨c.toNat, by omega⟩
  rw [Char.ofNat_toNat] at hc'
  rw [hc'] at hhex
  cases hhex

theorem bytes_clean {value : String} {n : Nat} (hcontrol : value.toList.any isControl = false)
    (hlength : value.length ≤ n) :
    bytes (Value.string value).render ≤ 4 * n + 2 :=
  bytes_string (printable_of_control fun c hc => by simpa using List.any_eq_false.mp hcontrol c hc) hlength

theorem bytes_hex {value : String} {n : Nat} (h : value.utf8ByteSize = n ∧ value.toList.all isAsciiHexdigit = true) :
    bytes (Value.string value).render ≤ 4 * n + 2 :=
  bytes_string (printable_hex h.2) (h.1 ▸ Utf8.length_le_utf8ByteSize value)

/-! ## Round trips -/

variable {serde : SerdeJson}

/-- What has a canonical text was checked. -/
theorem canonicalJsonV1_unreserved {T : Type} {codec : Codec T} {t : T} {text : String}
    (h : canonicalJsonV1 serde codec t = .ok text) : Unreserved (codec.toValue t) :=
  unreserved_of_validate (Loop.bind_unit_eq_ok.mp h).1

theorem canonicalJson_ok {tree : Value} {text : String} (h : canonicalJson serde tree = .ok text) :
    text = serde.toText tree.normalize := by
  obtain ⟨⟨⟩, -, h⟩ := Loop.bind_eq_ok.mp h
  exact (Except.ok.inj h).symm

theorem canonicalJson_unreserved {tree : Value} {text : String} (h : canonicalJson serde tree = .ok text) :
    Unreserved tree.normalize :=
  unreserved_of_validate (Loop.bind_unit_eq_ok.mp h).1

theorem canonicalJson_normalize {tree : Value} (hint : tree.integral = true) :
    canonicalJson serde tree.normalize = canonicalJson serde tree := by
  rw [canonicalJson, normalize_plain _ (plain_normalize tree hint)]
  rfl

/-- Plain values of one text are equal. -/
theorem toText_injective {v w : Value} (hv : v.plain = true) (hw : w.plain = true)
    (h : serde.toText v = serde.toText w) : v = w := by
  rw [serde.toText_plain v hv, serde.toText_plain w hw] at h
  have hlimit : v.depth < max v.depth w.depth + 1 ∧ w.depth < max v.depth w.depth + 1 := by omega
  have hparse := parse_render hv hlimit.1
  rw [h, parse_render hw hlimit.2] at hparse
  exact (Option.some.inj hparse).symm

theorem roundTrips_iff (hlimit : serde.Limited) {tree : Value} {text : String} (hint : tree.integral = true)
    (h : canonicalJson serde tree = .ok text) : RoundTrips serde tree text ↔ tree.normalize.depth < recursionLimit := by
  have hplain := plain_normalize tree hint
  have hkeys := canonicalJson_unreserved h
  have htext := canonicalJson_ok h
  constructor
  · rintro ⟨hread, -⟩
    refine Nat.lt_of_not_le fun hdeep => ?_
    rw [htext, hlimit _ hplain hkeys hdeep] at hread
    cases hread
  · intro hdepth
    refine ⟨?_, (canonicalJson_normalize hint).trans h⟩
    rw [htext]
    exact serde.fromStr_toText _ hplain hkeys hdepth

/-- Values have the same text when they are the same up to the order of keys. A value is read back from its text exactly
when it is nested less deep than the reader allows. -/
theorem canonical_encoding (hlimit : serde.Limited) :
    (∀ tree text, tree.integral = true → canonicalJson serde tree = .ok text →
      (RoundTrips serde tree text ↔ tree.normalize.depth < recursionLimit)) ∧
    ∀ tree₁ tree₂ text₁ text₂, tree₁.integral = true → tree₂.integral = true → tree₁.distinct = true →
      tree₂.distinct = true → canonicalJson serde tree₁ = .ok text₁ → canonicalJson serde tree₂ = .ok text₂ →
      (text₁ = text₂ ↔ Same tree₁ tree₂) := by
  refine ⟨fun _ _ => roundTrips_iff hlimit, fun tree₁ tree₂ text₁ text₂ hint₁ hint₂ hdist₁ hdist₂ h₁ h₂ => ?_⟩
  rw [same_iff_normalize hdist₁ hdist₂, canonicalJson_ok h₁, canonicalJson_ok h₂]
  constructor
  · exact toText_injective (plain_normalize tree₁ hint₁) (plain_normalize tree₂ hint₂)
  · intro h
    rw [h]

/-- `n + 1` arrays, one in the other. -/
def nested : Nat → Value
  | 0 => .array []
  | n + 1 => .array [nested n]

theorem nested_plain : ∀ n, (nested n).plain = true ∧ (nested n).depth = n + 1 ∧ (nested n).integral = true
  | 0 => ⟨rfl, rfl, rfl⟩
  | n + 1 => by
    obtain ⟨hplain, hdepth, hint⟩ := nested_plain n
    simp [nested, Value.plain, plainItems, Value.depth, depthItems, Value.integral, integralItems, hplain, hdepth, hint]

theorem nested_unreserved : ∀ n, Unreserved (nested n)
  | 0 => rfl
  | n + 1 => by
    have ih := nested_unreserved n
    rw [Unreserved] at ih ⊢
    simp [nested, Value.allKeys, allKeysItems, ih]

/-- The walk accepts 129 arrays. -/
theorem validateValue_nested (field : String) : ∀ n depth, depth + n ≤ maxJsonDepth →
    validateValue field depth (nested n) = .ok ()
  | 0, depth, h => by
    simp only [nested, validateValue, validateItems, checkDepth, bind, Except.bind]
    rw [if_neg (by omega)]
  | n + 1, depth, h => by
    have ih := validateValue_nested field n (depth + 1) (by omega)
    simp only [nested, validateValue, validateItems, checkDepth, ih, bind, Except.bind]
    rw [if_neg (by omega)]

theorem canonicalJson_nested {n : Nat} (h : n ≤ maxJsonDepth) :
    canonicalJson serde (nested n) = .ok (serde.toText (nested n)) := by
  rw [canonicalJson, normalize_plain _ (nested_plain n).1, validateCanonicalJsonValue,
    validateValue_nested _ n 0 (by omega)]
  rfl

theorem canonical_encoding_nested : RoundTrips .compact (nested 126) (SerdeJson.compact.toText (nested 126)) :=
  ((canonical_encoding SerdeJson.compact_limited).1 _ _ (nested_plain 126).2.2 (canonicalJson_nested (by decide))).mpr
    (by
    rw [normalize_plain _ (nested_plain 126).1, (nested_plain 126).2.1]
    decide)

/-- 128 arrays have a canonical text, which is not read back. -/
theorem canonical_unreadable : (nested 127).integral = true ∧ ∃ text, canonicalJson .compact (nested 127) = .ok text ∧
    SerdeJson.compact.fromStr text = none :=
  ⟨(nested_plain 127).2.2, _, canonicalJson_nested (by decide),
    SerdeJson.compact_limited _ (nested_plain 127).1 (nested_unreserved 127) (by rw [(nested_plain 127).2.1]; decide)⟩

end Vectis.Core.Canonical

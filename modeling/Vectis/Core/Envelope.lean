import Vectis.Core.Validation
import Vectis.Lib.Base64

/-!
# Encrypted envelopes

A ciphertext, a nonce and associated data in standard base64, joined by dots (`core/validation.rs`).

- `decodeBase64StandardEnvelope_envelope`: an envelope that is small enough is read back;
- `validateStorageEnvelope_envelope`: and accepted for storage.
-/

namespace Vectis.Core.Validation

/-! ## Segments -/

/-- `general_purpose::STANDARD`. -/
def standardEncode (bytes : List UInt8) : String := String.ofList (Base64.encodeStandard bytes)

def standardDecode (text : String) : Option (List UInt8) := Base64.decodeStandard text.toList

def envelopeText (ciphertext nonce aad : List UInt8) : String :=
  standardEncode ciphertext ++ "." ++ standardEncode nonce ++ "." ++ standardEncode aad

structure DecodedBase64Envelope where
  ciphertext : List UInt8
  nonce : List UInt8
  aad : List UInt8
  deriving DecidableEq, Repr

def decodeSegment (field part : String) : Res (List UInt8) :=
  match standardDecode part with
  | some bytes => .ok bytes
  | none => .error (.invalidInput (field ++ " contains invalid base64"))

def decodeBase64StandardEnvelope (field value : String) (maxChars nonceSizeBytes : Nat) :
    Res DecodedBase64Envelope := do
  let (ciphertext, nonce, aad) ← splitBase64StandardEnvelopeSegments field value maxChars
  let ciphertext ← decodeSegment field ciphertext
  let nonce ← decodeSegment field nonce
  let aad ← decodeSegment field aad
  if ciphertext.length < 16 then
    .error (.invalidInput (field ++ ".ciphertext must include at least a 16-byte authentication tag"))
  else if nonce.length ≠ nonceSizeBytes then
    .error (.invalidInput (field ++ ".nonce must be " ++ toString nonceSizeBytes ++ " bytes"))
  else
    match Utf8.decode aad with
    | none => .error (.invalidInput (field ++ ".aad is not valid UTF-8"))
    | some text =>
      if text.toList.all isWhitespace then .error (.invalidInput (field ++ ".aad must not be empty"))
      else .ok ⟨ciphertext, nonce, aad⟩

def validateStorageEnvelope (field value : String) (maxChars : Nat) : Res Unit := do
  let _ ← validateBase64StandardEnvelopeSegments standardDecode field value maxChars
  .ok ()

/-! ## Texts of envelopes -/

@[simp]
theorem standardDecode_standardEncode (bytes : List UInt8) : standardDecode (standardEncode bytes) = some bytes := by
  rw [standardDecode, standardEncode, String.toList_ofList, Base64.decodeStandard_encodeStandard]

theorem standard_sextet : ∀ n : Fin 64, isAscii (Base64.toStandard (Base64.sextet n)) = true ∧
    isAsciiWhitespace (Base64.toStandard (Base64.sextet n)) = false ∧
    isAsciiControl (Base64.toStandard (Base64.sextet n)) = false ∧
    Base64.toStandard (Base64.sextet n) ≠ '.' := by decide

theorem standardEncode_chars {bytes : List UInt8} {c : Char} (hc : c ∈ (standardEncode bytes).toList) :
    isAscii c = true ∧ isAsciiWhitespace c = false ∧ isAsciiControl c = false ∧ c ≠ '.' := by
  rw [standardEncode, String.toList_ofList] at hc
  rcases Base64.encodeStandard_chars bytes c hc with ⟨n, rfl⟩ | rfl
  · exact standard_sextet n
  · exact ⟨rfl, rfl, rfl, by decide⟩

theorem dot_not_mem_standardEncode (bytes : List UInt8) : '.' ∉ (standardEncode bytes).toList := fun h =>
  (standardEncode_chars h).2.2.2 rfl

theorem toList_envelopeText (ciphertext nonce aad : List UInt8) : (envelopeText ciphertext nonce aad).toList =
    (standardEncode ciphertext).toList ++ '.' ::
    ((standardEncode nonce).toList ++ '.' :: (standardEncode aad).toList) := by
  simp [envelopeText, String.toList_append]

/-- What holds of the dot and of all characters of base64 holds of an envelope. -/
theorem forall_envelopeText {motive : Char → Prop} (hencode : ∀ bytes, ∀ c ∈ (standardEncode bytes).toList, motive c)
    (hdot : motive '.') (ciphertext nonce aad : List UInt8) : ∀ c ∈ (envelopeText ciphertext nonce aad).toList,
    motive c := by
  rw [toList_envelopeText, List.forall_mem_append, List.forall_mem_cons, List.forall_mem_append, List.forall_mem_cons]
  exact ⟨hencode _, hdot, hencode _, hdot, hencode _⟩

theorem envelopeText_chars {ciphertext nonce aad : List UInt8} {c : Char}
    (hc : c ∈ (envelopeText ciphertext nonce aad).toList) :
    isAscii c = true ∧ isAsciiWhitespace c = false ∧ isAsciiControl c = false := by
  refine forall_envelopeText (motive := fun d => isAscii d = true ∧ isAsciiWhitespace d = false ∧
    isAsciiControl d = false) (fun bytes d hd => ?_) ⟨rfl, rfl, rfl⟩ ciphertext nonce aad c hc
  exact ⟨(standardEncode_chars hd).1, (standardEncode_chars hd).2.1, (standardEncode_chars hd).2.2.1⟩

theorem splitDots_envelopeText (ciphertext nonce aad : List UInt8) : splitDots (envelopeText ciphertext nonce aad) =
    [(standardEncode ciphertext).toList, (standardEncode nonce).toList, (standardEncode aad).toList] := by
  rw [splitDots, toList_envelopeText, List.splitOn_append_cons_self_of_not_mem (dot_not_mem_standardEncode ciphertext),
    List.splitOn_append_cons_self_of_not_mem (dot_not_mem_standardEncode nonce),
    List.splitOn_eq_singleton (dot_not_mem_standardEncode aad)]

/-- The text of an envelope determines its ciphertext. -/
theorem ciphertext_of_envelopeText {ciphertext nonce aad ciphertext' nonce' aad' : List UInt8}
    (h : envelopeText ciphertext nonce aad = envelopeText ciphertext' nonce' aad') : ciphertext = ciphertext' := by
  have hsegments := congrArg splitDots h
  rw [splitDots_envelopeText, splitDots_envelopeText, List.cons.injEq] at hsegments
  have hdecoded := congrArg standardDecode (String.toList_injective hsegments.1)
  rw [standardDecode_standardEncode, standardDecode_standardEncode, Option.some.injEq] at hdecoded
  exact hdecoded

theorem utf8ByteSize_envelopeText (ciphertext nonce aad : List UInt8) :
    (envelopeText ciphertext nonce aad).utf8ByteSize = 4 * ((ciphertext.length + 2) / 3) + 4 * ((nonce.length + 2) / 3)
    + 4 * ((aad.length + 2) / 3) + 2 := by
  have hlength : ∀ bytes, (standardEncode bytes).toList.length = 4 * ((bytes.length + 2) / 3) := by
    intro bytes
    rw [standardEncode, String.toList_ofList, Base64.length_encodeStandard]
  rw [Utf8.utf8ByteSize_ascii fun c hc => ?_, toList_envelopeText]
  · simp only [List.length_append, List.length_cons, hlength]
    omega
  · have hascii := (envelopeText_chars hc).1
    simp only [isAscii, decide_eq_true_eq] at hascii
    exact UInt32.le_iff_toNat_le.mpr (Nat.le_of_lt_succ (UInt32.lt_iff_toNat_lt.mp hascii))

theorem standardEncode_ne_nil {bytes : List UInt8} (h : bytes ≠ []) :
    (standardEncode bytes).toList.isEmpty = false := by
  have hlength := Base64.length_encodeStandard bytes
  have hpos := List.length_pos_iff.mpr h
  rw [standardEncode, String.toList_ofList, List.isEmpty_eq_false_iff]
  intro hnil
  rw [hnil, List.length_nil] at hlength
  omega

/-- The segments of an envelope. -/
theorem splitBase64StandardEnvelopeSegments_envelope {field : String} {ciphertext nonce aad : List UInt8}
    {maxChars : Nat} (hciphertext : ciphertext ≠ []) (hnonce : nonce ≠ []) (haad : aad ≠ [])
    (hsize : (envelopeText ciphertext nonce aad).utf8ByteSize ≤ maxChars) :
    splitBase64StandardEnvelopeSegments field (envelopeText ciphertext nonce aad) maxChars =
      .ok (standardEncode ciphertext, standardEncode nonce, standardEncode aad) := by
  have hne : (envelopeText ciphertext nonce aad).isEmpty = false := by
    rw [Bool.eq_false_iff]
    intro hempty
    have hzero := utf8ByteSize_envelopeText ciphertext nonce aad
    rw [String.isEmpty_iff.mp hempty] at hzero
    exact absurd hzero (by simp)
  have hascii : (envelopeText ciphertext nonce aad).toList.all isAscii = true :=
    List.all_eq_true.mpr fun c hc => (envelopeText_chars hc).1
  have hclean : ((envelopeText ciphertext nonce aad).toList.any fun c => isAsciiWhitespace c || isAsciiControl c) =
      false :=
    List.any_eq_false.mpr fun c hc => by simp [(envelopeText_chars hc).2.1, (envelopeText_chars hc).2.2]
  unfold splitBase64StandardEnvelopeSegments
  rw [if_neg (by simp [hne]), if_neg (Nat.not_lt.mpr hsize), if_neg (by simp [hascii, hclean]), splitDots_envelopeText]
  simp [standardEncode_ne_nil hciphertext, standardEncode_ne_nil hnonce, standardEncode_ne_nil haad]

theorem decodeSegment_standardEncode (field : String) (bytes : List UInt8) :
    decodeSegment field (standardEncode bytes) = .ok bytes := by
  rw [decodeSegment, standardDecode_standardEncode]

/-- An envelope is read back. -/
theorem decodeBase64StandardEnvelope_envelope {field aad : String} {ciphertext nonce : List UInt8}
    {maxChars nonceSizeBytes : Nat} (hciphertext : 16 ≤ ciphertext.length) (hnonce : nonce.length = nonceSizeBytes)
    (hpos : 0 < nonceSizeBytes) (haad : aad.toList.all isWhitespace = false)
    (hsize : (envelopeText ciphertext nonce (Utf8.encode aad)).utf8ByteSize ≤ maxChars) :
    decodeBase64StandardEnvelope field (envelopeText ciphertext nonce (Utf8.encode aad)) maxChars nonceSizeBytes =
      .ok ⟨ciphertext, nonce, Utf8.encode aad⟩ := by
  have haad' : Utf8.encode aad ≠ [] := by
    intro hnil
    have hempty : aad = "" := Utf8.encode_injective (hnil.trans rfl)
    rw [hempty] at haad
    cases haad
  have hsplit := @splitBase64StandardEnvelopeSegments_envelope field ciphertext nonce (Utf8.encode aad) maxChars
    (List.ne_nil_of_length_pos (by omega)) (List.ne_nil_of_length_pos (by omega)) haad' hsize
  unfold decodeBase64StandardEnvelope
  rw [hsplit]
  simp only [bind, Except.bind, decodeSegment_standardEncode]
  rw [if_neg (by omega), if_neg (by omega), Utf8.decode_encode]
  simp [haad]

/-- And accepted for storage. -/
theorem validateStorageEnvelope_envelope {field : String} {ciphertext nonce aad : List UInt8} {maxChars : Nat}
    (hciphertext : ciphertext ≠ []) (hnonce : nonce ≠ []) (haad : aad ≠ [])
    (hsize : (envelopeText ciphertext nonce aad).utf8ByteSize ≤ maxChars) :
    validateStorageEnvelope field (envelopeText ciphertext nonce aad) maxChars = .ok () := by
  unfold validateStorageEnvelope validateBase64StandardEnvelopeSegments
  rw [splitBase64StandardEnvelopeSegments_envelope hciphertext hnonce haad hsize]
  simp [bind, Except.bind]

/-- What is read from an envelope is what it was made of. -/
theorem decode_envelopeText {field : String} {ciphertext nonce aad : List UInt8} {maxChars nonceSizeBytes : Nat}
    {decoded : DecodedBase64Envelope}
    (h : decodeBase64StandardEnvelope field (envelopeText ciphertext nonce aad) maxChars nonceSizeBytes = .ok decoded) :
    decoded = ⟨ciphertext, nonce, aad⟩ := by
  obtain ⟨⟨c, n, a⟩, hsplit, h⟩ := Loop.bind_eq_ok.mp h
  have hparts : (c, n, a) = (standardEncode ciphertext, standardEncode nonce, standardEncode aad) := by
    unfold splitBase64StandardEnvelopeSegments at hsplit
    simp only [Loop.guard_eq_ok, splitDots_envelopeText] at hsplit
    obtain ⟨-, -, -, -, hsplit⟩ := hsplit
    simpa using hsplit.symm
  cases hparts
  obtain ⟨c, hc, h⟩ := Loop.bind_eq_ok.mp h
  obtain ⟨n, hn, h⟩ := Loop.bind_eq_ok.mp h
  obtain ⟨a, ha, h⟩ := Loop.bind_eq_ok.mp h
  rw [decodeSegment_standardEncode] at hc hn ha
  cases hc
  cases hn
  cases ha
  simp only [Loop.guard_eq_ok] at h
  obtain ⟨-, -, h⟩ := h
  split at h
  · cases h
  · obtain ⟨-, h⟩ := Loop.guard_eq_ok.mp h
    cases h
    rfl

/-! ## Bytes in hex -/

theorem isAsciiHexdigit_digit : ∀ n : Fin 16, isAsciiHexdigit (Hex.digit n.val) = true := by decide

theorem hexdigit_encode {bytes : List UInt8} {c : Char} (hc : c ∈ (Hex.encode bytes).toList) :
    isAsciiHexdigit c = true := by
  rw [Hex.encode, String.toList_ofList, List.mem_flatMap] at hc
  obtain ⟨byte, -, hc⟩ := hc
  have hbyte := byte.toNat_lt
  rcases List.mem_cons.mp hc with rfl | hc
  · exact isAsciiHexdigit_digit ⟨byte.toNat / 16, by omega⟩
  · rw [List.mem_singleton.mp hc]
    exact isAsciiHexdigit_digit ⟨byte.toNat % 16, by omega⟩

theorem utf8ByteSize_hexEncode (bytes : List UInt8) : (Hex.encode bytes).utf8ByteSize = 2 * bytes.length := by
  rw [Utf8.utf8ByteSize_ascii fun c hc => isAscii_of_hexdigit (hexdigit_encode hc), Hex.encode, String.toList_ofList]
  simp [List.length_flatMap, Nat.mul_comm]

theorem validateHexField_encode {field : String} {bytes : List UInt8} (h : bytes ≠ []) :
    validateHexField field (Hex.encode bytes) = .ok () := by
  have hsize := utf8ByteSize_hexEncode bytes
  have hpos := List.length_pos_iff.mpr h
  refine validateHexField_ok_iff.mpr ⟨?_, by omega, List.all_eq_true.mpr fun c hc => hexdigit_encode hc⟩
  rw [Bool.eq_false_iff]
  intro hempty
  rw [String.isEmpty_iff.mp hempty] at hsize
  simp only [String.utf8ByteSize_empty] at hsize
  omega

end Vectis.Core.Validation

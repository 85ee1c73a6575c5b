import Vectis.Core.Validation

/-!
# Error details without caller values

`sanitized_serde_json_error_detail` (`error.rs`) takes the rendered message of a Serde error, cuts a quoted value out of
it, drops control characters and bounds the length. Positions in a message are counted in characters.

- `Mismatch.message`, `unknownVariantMessage`: the messages of Serde, with the debug rendering of strings;
- `redact_message`, `redact_variant`: what is left of a message;
- `detail_same_iff`: the details of two values agree, whatever is expected and wherever the error is, exactly when the
  values are of the same kind and, for strings, the same text follows their first quote;
- `variantDetail_same_iff`: those of two unknown variants agree exactly when the same shows of the variants.
-/

namespace Vectis.Core.ErrorDetail

open Validation

/-! ## Redaction -/

/-- `UNTRUSTED_ERROR_DETAIL_MAX_CHARS`. -/
def untrustedErrorDetailMaxChars : Nat := 256

/-- `str::find` of a text that is not empty. -/
def findText (needle : List Char) : List Char → Option Nat
  | [] => none
  | c :: cs => if needle.isPrefixOf (c :: cs) then some 0 else (findText needle cs).map (· + 1)

def trimEnd (cs : List Char) : List Char := (cs.reverse.dropWhile isWhitespace).reverse

def invalidTypeMarker : List Char := "invalid type: ".toList

def invalidValueMarker : List Char := "invalid value: ".toList

def isDelimiter (c : Char) : Bool := c = '`' || c = '"'

def redactSerdeValue (message : List Char) : List Char :=
  let starts := [invalidTypeMarker, invalidValueMarker].filterMap fun marker =>
    (findText marker message).map (· + marker.length)
  match starts.min? with
  | none => message
  | some start =>
    let region := message.drop start
    match region.findIdx? isDelimiter with
    | none => message
    | some opening =>
      let delimiter := region.getD opening '"'
      match (region.drop (opening + 1)).findIdx? (· = delimiter) with
      | none => message
      | some close => trimEnd (message.take (start + opening)) ++ message.drop (start + opening + 1 + close + 1)

def sanitizeUntrustedErrorDetail (detail : List Char) : List Char :=
  let bounded := (detail.filter fun c => !isControl c).take untrustedErrorDetailMaxChars
  if bounded.all isWhitespace then "invalid JSON".toList else bounded

def sanitizedSerdeJsonErrorDetail (message : List Char) : String :=
  String.ofList (sanitizeUntrustedErrorDetail (redactSerdeValue message))

/-! ## Messages -/

section Messages

-- what Rust prints as it is
variable (isPrintable : Char → Bool)

/-- A character in the debug rendering of a string. -/
def escapeDebug (c : Char) : List Char :=
  if c = '"' then ['\\', '"']
  else if c = '\\' then ['\\', '\\']
  else if c = '\x00' then ['\\', '0']
  else if c = '\t' then ['\\', 't']
  else if c = '\r' then ['\\', 'r']
  else if c = '\n' then ['\\', 'n']
  else if isPrintable c then [c]
  else '\\' :: 'u' :: '{' :: Nat.toDigits 16 c.toNat ++ ['}']

def debugChars (cs : List Char) : List Char := cs.flatMap (escapeDebug isPrintable)

/-- The text of a float, which has no backtick. -/
structure FloatText where
  text : String
  backtick : '`' ∉ text.toList

inductive Scalar
  | boolean (b : Bool)
  | integer (n : Int)
  | float (text : FloatText)
  | string (s : String)

inductive JsonKind
  | boolean
  | number
  | string
  deriving DecidableEq, Repr

namespace Scalar

def kind : Scalar → JsonKind
  | .boolean _ => .boolean
  | .integer _ | .float _ => .number
  | .string _ => .string

def word : Scalar → List Char
  | .boolean _ => "boolean".toList
  | .integer _ => "integer".toList
  | .float _ => "floating point".toList
  | .string _ => "string".toList

def delimiter : Scalar → Char
  | .string _ => '"'
  | _ => '`'

def body : Scalar → List Char
  | .boolean b => (toString b).toList
  | .integer n => (toString n).toList
  | .float text => text.text.toList
  | .string s => debugChars isPrintable s.toList

/-- `Unexpected` as Serde prints it. -/
def unexpected (x : Scalar) : List Char :=
  x.word ++ ' ' :: x.delimiter :: (x.body isPrintable ++ [x.delimiter])

end Scalar

inductive Mismatch
  | invalidType
  | invalidValue
  deriving DecidableEq, Repr

def Mismatch.marker : Mismatch → List Char
  | .invalidType => invalidTypeMarker
  | .invalidValue => invalidValueMarker

/-- What was expected, and where. -/
structure Place where
  expected : String
  position : Option (Nat × Nat)

def expectedText : List Char := ", expected ".toList

def Place.positionText (place : Place) : List Char :=
  match place.position with
  | none => []
  | some (line, column) => " at line ".toList ++ (toString line).toList ++ " column ".toList ++ (toString column).toList

def Place.text (place : Place) : List Char := expectedText ++ (place.expected.toList ++ place.positionText)

def Mismatch.message (mismatch : Mismatch) (x : Scalar) (place : Place) : List Char :=
  mismatch.marker ++ (x.unexpected isPrintable ++ place.text)

def unknownVariantMessage (variant : String) (place : Place) : List Char :=
  "unknown variant `".toList ++ (variant.toList ++ '`' :: place.text)

/-! ## What is left of a message -/

/-- What follows the first quote of a string, as it is rendered, with the closing quote. -/
def leak : List Char → List Char
  | [] => []
  | c :: cs => if c = '"' then debugChars isPrintable cs ++ ['"'] else leak cs

def Scalar.leak : Scalar → List Char
  | .string s => ErrorDetail.leak isPrintable s.toList
  | _ => []

theorem findIdx?_first {p : Char → Bool} {c : Char} {rest : List Char} : ∀ {pre : List Char}, (∀ x ∈ pre, p x = false) →
    p c = true → (pre ++ c :: rest).findIdx? p = some pre.length
  | [], _, hc => by simp [List.findIdx?_cons, hc]
  | x :: pre, hpre, hc => by
    have ih : (pre ++ c :: rest).findIdx? p = some pre.length :=
      findIdx?_first (fun y hy => hpre y (List.mem_cons_of_mem _ hy)) hc
    rw [List.cons_append, List.findIdx?_cons, hpre x List.mem_cons_self, ih]
    rfl

theorem findText_prefix {needle rest : List Char} (hne : needle ≠ []) : findText needle (needle ++ rest) = some 0 := by
  cases needle with
  | nil => exact absurd rfl hne
  | cons c cs => simp [findText]

/-- The marker at the front comes first. -/
theorem min_starts (mismatch : Mismatch) (rest : List Char) :
    ([invalidTypeMarker, invalidValueMarker].filterMap fun marker =>
      (findText marker (mismatch.marker ++ rest)).map (· + marker.length)).min? = some mismatch.marker.length := by
  have htype : invalidTypeMarker.length = 14 := by decide
  have hvalue : invalidValueMarker.length = 15 := by decide
  cases mismatch with
  | invalidType =>
    have hown : findText invalidTypeMarker (invalidTypeMarker ++ rest) = some 0 := findText_prefix (by decide)
    cases hother : findText invalidValueMarker (invalidTypeMarker ++ rest) with
    | none => simp [Mismatch.marker, hown, hother]
    | some p =>
      simp only [Mismatch.marker, List.filterMap_cons, hown, hother, Option.map_some, htype, hvalue, List.filterMap_nil]
      exact congrArg some (Nat.min_eq_left (by omega))
  | invalidValue =>
    have hown : findText invalidValueMarker (invalidValueMarker ++ rest) = some 0 := findText_prefix (by decide)
    have hstep : findText invalidTypeMarker (invalidValueMarker ++ rest)
        = (findText invalidTypeMarker ("nvalid value: ".toList ++ rest)).map (· + 1) := rfl
    cases hother : findText invalidTypeMarker ("nvalid value: ".toList ++ rest) with
    | none =>
      simp only [Mismatch.marker, List.filterMap_cons, hown, hstep, hother, Option.map_some, Option.map_none, hvalue,
        List.filterMap_nil]
      rfl
    | some p =>
      simp only [Mismatch.marker, List.filterMap_cons, hown, hstep, hother, Option.map_some, htype, hvalue,
        List.filterMap_nil]
      exact congrArg some (Nat.min_eq_right (by omega))

theorem quote_not_mem_toDigits (n : Nat) : '"' ∉ Nat.toDigits 16 n := by
  induction n using Nat.strongRecOn with
  | ind n ih =>
    have hdigit : ∀ d : Fin 16, '"' ≠ Nat.digitChar d := by decide
    rcases Nat.lt_or_ge n 16 with hlt | hge
    · rw [Nat.toDigits_of_lt_base hlt, List.mem_singleton]
      exact hdigit ⟨n, hlt⟩
    · rw [Nat.toDigits_of_base_le (by decide) hge, List.mem_append, List.mem_singleton, not_or]
      exact ⟨ih (n / 16) (by omega), hdigit ⟨n % 16, by omega⟩⟩

theorem quote_not_mem_escapeDebug {c : Char} (h : c ≠ '"') : '"' ∉ escapeDebug isPrintable c := by
  have hhex := quote_not_mem_toDigits c.toNat
  unfold escapeDebug
  rw [if_neg h]
  repeat' split
  all_goals simp [hhex, h.symm]

theorem backtick_not_mem_integer (n : Int) : '`' ∉ (toString n).toList := by
  have hdigits : ∀ m : Nat, '`' ∉ m.repr.toList := by
    intro m hm
    rw [Nat.toList_repr] at hm
    exact absurd (Nat.isDigit_of_mem_toDigits (by decide) (by decide) hm) (by decide)
  cases n with
  | ofNat m => exact hdigits m
  | negSucc m =>
    show '`' ∉ ("-" ++ (m + 1).repr).toList
    rw [String.toList_append, List.mem_append, not_or]
    exact ⟨by decide, hdigits (m + 1)⟩

/-- The search for the closing quote stops at the first quote of the string. -/
theorem debugChars_split : ∀ s : List Char, ∃ hidden, '"' ∉ hidden ∧ ∀ rest,
    debugChars isPrintable s ++ '"' :: rest = hidden ++ '"' :: (leak isPrintable s ++ rest)
  | [] => ⟨[], List.not_mem_nil, fun _ => rfl⟩
  | c :: cs => by
    by_cases hc : c = '"'
    · refine ⟨['\\'], by decide, fun rest => ?_⟩
      simp [debugChars, leak, escapeDebug, hc]
    · obtain ⟨hidden, hhidden, hsplit⟩ := debugChars_split cs
      refine ⟨escapeDebug isPrintable c ++ hidden, ?_, fun rest => ?_⟩
      · rw [List.mem_append, not_or]
        exact ⟨quote_not_mem_escapeDebug isPrintable hc, hhidden⟩
      · rw [leak, if_neg hc, List.append_assoc, ← hsplit, ← List.append_assoc]
        rfl

theorem body_split (x : Scalar) : ∃ hidden, x.delimiter ∉ hidden ∧ ∀ rest,
    x.body isPrintable ++ x.delimiter :: rest = hidden ++ x.delimiter :: (x.leak isPrintable ++ rest) := by
  cases x with
  | boolean b => exact ⟨(toString b).toList, by cases b <;> decide, fun _ => rfl⟩
  | integer n => exact ⟨(toString n).toList, backtick_not_mem_integer n, fun _ => rfl⟩
  | float text => exact ⟨text.text.toList, text.backtick, fun _ => rfl⟩
  | string s => exact debugChars_split isPrintable s.toList

theorem trimEnd_word (mismatch : Mismatch) (x : Scalar) :
    trimEnd (mismatch.marker ++ (x.word ++ [' '])) = mismatch.marker ++ x.word := by
  cases mismatch <;> cases x <;> rfl

theorem isDelimiter_word (x : Scalar) : ∀ c ∈ x.word ++ [' '], isDelimiter c = false := by
  have hall : ((x.word ++ [' ']).all fun c => !isDelimiter c) = true := by cases x <;> rfl
  intro c hc
  simpa using List.all_eq_true.mp hall c hc

theorem isDelimiter_delimiter (x : Scalar) : isDelimiter x.delimiter = true := by
  cases x <;> rfl

theorem drop_after {pre rest : List Char} {c : Char} : (pre ++ c :: rest).drop (pre.length + 1) = rest := by
  rw [List.append_cons, show pre.length + 1 = (pre ++ [c]).length by simp, List.drop_left]

/-- The text between the first delimiter after the marker and the next one like it is cut out. -/
theorem redact_parts {front word hidden tail : List Char} {d : Char}
    (hstart : ([invalidTypeMarker, invalidValueMarker].filterMap fun marker =>
      (findText marker (front ++ (word ++ d :: (hidden ++ d :: tail)))).map (· + marker.length)).min? =
        some front.length)
    (hword : ∀ c ∈ word, isDelimiter c = false) (hd : isDelimiter d = true) (hhidden : d ∉ hidden) :
    redactSerdeValue (front ++ (word ++ d :: (hidden ++ d :: tail))) = trimEnd (front ++ word) ++ tail := by
  have hopen : (word ++ d :: (hidden ++ d :: tail)).findIdx? isDelimiter = some word.length := findIdx?_first hword hd
  have hclose : (hidden ++ d :: tail).findIdx? (fun c => decide (c = d)) = some hidden.length :=
    findIdx?_first (fun c hc => decide_eq_false fun heq => hhidden (heq ▸ hc)) (decide_eq_true rfl)
  have hget : (word ++ d :: (hidden ++ d :: tail)).getD word.length '"' = d := by simp
  have hrest : (front ++ (word ++ d :: (hidden ++ d :: tail))).drop (front.length + word.length + 1 + hidden.length + 1)
      = tail := by
    have hassoc : front ++ (word ++ d :: (hidden ++ d :: tail)) = (front ++ word ++ d :: hidden) ++ d :: tail := by simp
    have hlen : front.length + word.length + 1 + hidden.length = (front ++ word ++ d :: hidden).length := by
      simp
      omega
    rw [hassoc, hlen, drop_after]
  have hfront : (front ++ (word ++ d :: (hidden ++ d :: tail))).take (front.length + word.length) = front ++ word := by
    rw [← List.append_assoc, ← List.length_append, List.take_left]
  unfold redactSerdeValue
  simp only [hstart, List.drop_left, hopen, hget, drop_after, hclose, hrest, hfront]

/-- The value is cut out, up to what follows the first quote of a string. -/
theorem redact_message (mismatch : Mismatch) (x : Scalar) (place : Place) :
    redactSerdeValue (mismatch.message isPrintable x place) =
      mismatch.marker ++ x.word ++ (x.leak isPrintable ++ place.text) := by
  obtain ⟨hidden, hhidden, hbody⟩ := body_split isPrintable x
  have hmessage : mismatch.message isPrintable x place = mismatch.marker ++
      ((x.word ++ [' ']) ++ x.delimiter :: (hidden ++ x.delimiter :: (x.leak isPrintable ++ place.text))) := by
    rw [← hbody]
    simp [Mismatch.message, Scalar.unexpected]
  rw [hmessage, redact_parts (min_starts mismatch _) (isDelimiter_word x) (isDelimiter_delimiter x) hhidden,
    trimEnd_word]

/-! ## Details -/

/-- The part of a message that is the same for all values of a kind. -/
def head (mismatch : Mismatch) (x : Scalar) : List Char := mismatch.marker ++ x.word

def visibleChars (cs : List Char) : List Char := cs.filter fun c => !isControl c

/-- A bounded text with a fixed beginning. -/
theorem sanitize_front {front : List Char} (hvisible : visibleChars front = front)
    (hshort : front.take untrustedErrorDetailMaxChars = front) (hblank : front.all isWhitespace = false)
    (rest : List Char) :
    sanitizeUntrustedErrorDetail (front ++ rest) =
      front ++ (visibleChars rest).take (untrustedErrorDetailMaxChars - front.length) := by
  unfold sanitizeUntrustedErrorDetail
  unfold visibleChars at hvisible ⊢
  rw [List.filter_append, hvisible, List.take_append, hshort]
  simp only [List.all_append, hblank, Bool.false_and, Bool.false_eq_true, if_false]

theorem sanitize_head (mismatch : Mismatch) (x : Scalar) (rest : List Char) :
    sanitizeUntrustedErrorDetail (head mismatch x ++ rest) =
      head mismatch x ++ (visibleChars rest).take (untrustedErrorDetailMaxChars - (head mismatch x).length) := by
  have hvisible : visibleChars (head mismatch x) = head mismatch x := by
    cases mismatch <;> cases x <;> rfl
  have hshort : (head mismatch x).take untrustedErrorDetailMaxChars = head mismatch x := by
    cases mismatch <;> cases x <;> rfl
  have hblank : (head mismatch x).all isWhitespace = false := by
    cases mismatch <;> cases x <;> rfl
  exact sanitize_front hvisible hshort hblank rest

def Mismatch.detail (mismatch : Mismatch) (x : Scalar) (place : Place) : String :=
  sanitizedSerdeJsonErrorDetail (mismatch.message isPrintable x place)

/-- What shows of a string, up to the bound. -/
def shown (mismatch : Mismatch) (s : String) : List Char :=
  (visibleChars (leak isPrintable s.toList) ++ expectedText).take
    (untrustedErrorDetailMaxChars - (head mismatch (.string s)).length)

/-- Values of the same kind of which the same shows. -/
def Alike (mismatch : Mismatch) : Scalar → Scalar → Prop
  | .boolean _, .boolean _ | .integer _, .integer _ | .float _, .float _ => True
  | .string s, .string t => shown isPrintable mismatch s = shown isPrintable mismatch t
  | _, _ => False

theorem detail_eq (mismatch : Mismatch) (x : Scalar) (place : Place) :
    mismatch.detail isPrintable x place = String.ofList (head mismatch x ++
      (visibleChars (x.leak isPrintable) ++ (expectedText ++ visibleChars
        (place.expected.toList ++ place.positionText))).take
          (untrustedErrorDetailMaxChars - (head mismatch x).length)) := by
  have hexpected : visibleChars expectedText = expectedText := by rfl
  have hsplit : visibleChars (x.leak isPrintable ++ place.text) = visibleChars (x.leak isPrintable) ++
      (expectedText ++ visibleChars (place.expected.toList ++ place.positionText)) := by
    rw [← hexpected]
    simp [visibleChars, Place.text]
  rw [Mismatch.detail, sanitizedSerdeJsonErrorDetail, redact_message, ← hsplit]
  exact congrArg String.ofList (sanitize_head mismatch x _)

/-- Texts that agree up to a bound agree when something is appended. -/
theorem take_append_of_take {m : Nat} {u v : List Char} (h : u.take m = v.take m) (e : List Char) :
    (u ++ e).take m = (v ++ e).take m := by
  have hlength := congrArg List.length h
  rw [List.length_take, List.length_take] at hlength
  rw [List.take_append, List.take_append, h]
  by_cases hshort : u.length < m ∨ v.length < m
  · have hlen : u.length = v.length := by omega
    rw [hlen]
  · have hzero : m - u.length = 0 ∧ m - v.length = 0 := by omega
    rw [hzero.1, hzero.2]

theorem detail_same_of_hidden (mismatch : Mismatch) {x y : Scalar} (hhead : head mismatch x = head mismatch y)
    (hx : x.leak isPrintable = []) (hy : y.leak isPrintable = []) (place : Place) :
    mismatch.detail isPrintable x place = mismatch.detail isPrintable y place := by
  rw [detail_eq, detail_eq, hx, hy, hhead]

/-- The word of the kind shows. -/
theorem detail_ne_of_word (mismatch : Mismatch) (n : Int) (text : FloatText) (place : Place) :
    mismatch.detail isPrintable (.integer n) place ≠ mismatch.detail isPrintable (.float text) place := by
  intro h
  rw [detail_eq, detail_eq] at h
  have hlist := String.ofList_injective h
  rw [head, head, List.append_assoc, List.append_assoc] at hlist
  have hrest := List.append_cancel_left hlist
  have hinteger : (Scalar.integer n).word = 'i' :: "nteger".toList := rfl
  have hfloat : (Scalar.float text).word = 'f' :: "loating point".toList := rfl
  rw [hinteger, hfloat, List.cons_append, List.cons_append] at hrest
  exact absurd (List.cons.inj hrest).1 (by decide)

theorem detail_string_iff (mismatch : Mismatch) (s t : String) :
    (∀ place, mismatch.detail isPrintable (.string s) place = mismatch.detail isPrintable (.string t) place) ↔
      shown isPrintable mismatch s = shown isPrintable mismatch t := by
  constructor
  · intro h
    have hnothing : visibleChars ((⟨"", none⟩ : Place).expected.toList ++ Place.positionText ⟨"", none⟩) = [] := rfl
    have hplain := h ⟨"", none⟩
    rw [detail_eq, detail_eq, hnothing, List.append_nil] at hplain
    exact List.append_cancel_left (String.ofList_injective hplain)
  · intro h place
    rw [detail_eq, detail_eq, ← List.append_assoc, ← List.append_assoc]
    have htake := take_append_of_take h (visibleChars (place.expected.toList ++ place.positionText))
    exact congrArg (fun cs => String.ofList (head mismatch (.string s) ++ cs)) htake

/-- The details of two values of one JSON kind agree for whatever is expected, and wherever, exactly when the values are
alike. -/
theorem detail_same_iff (mismatch : Mismatch) {x y : Scalar} (hkind : x.kind = y.kind) :
    (∀ place, mismatch.detail isPrintable x place = mismatch.detail isPrintable y place) ↔
      Alike isPrintable mismatch x y := by
  cases x with
  | boolean b =>
    cases y with
    | boolean c => exact ⟨fun _ => trivial, fun _ => detail_same_of_hidden isPrintable mismatch rfl rfl rfl⟩
    | _ => cases hkind
  | integer n =>
    cases y with
    | integer m => exact ⟨fun _ => trivial, fun _ => detail_same_of_hidden isPrintable mismatch rfl rfl rfl⟩
    | float text =>
      refine ⟨fun h => ?_, fun h => h.elim⟩
      exact detail_ne_of_word isPrintable mismatch n text ⟨"", none⟩ (h _)
    | _ => cases hkind
  | float text =>
    cases y with
    | float text' => exact ⟨fun _ => trivial, fun _ => detail_same_of_hidden isPrintable mismatch rfl rfl rfl⟩
    | integer n =>
      refine ⟨fun h => ?_, fun h => h.elim⟩
      exact detail_ne_of_word isPrintable mismatch n text ⟨"", none⟩ (h _).symm
    | _ => cases hkind
  | string s =>
    cases y with
    | string t => exact detail_string_iff isPrintable mismatch s t
    | _ => cases hkind

theorem leak_eq_nil : ∀ {s : List Char}, '"' ∉ s → leak isPrintable s = []
  | [], _ => rfl
  | c :: cs, h => by
    rw [List.mem_cons, not_or] at h
    rw [leak, if_neg (Ne.symm h.1), leak_eq_nil h.2]

/-- Strings without a quote are alike. -/
theorem alike_of_no_quote (mismatch : Mismatch) {s t : String} (hs : '"' ∉ s.toList) (ht : '"' ∉ t.toList) :
    Alike isPrintable mismatch (.string s) (.string t) := by
  show shown isPrintable mismatch s = shown isPrintable mismatch t
  rw [shown, shown, leak_eq_nil isPrintable hs, leak_eq_nil isPrintable ht]
  rfl

end Messages

/-! ## Unknown variants -/

/-- The name of an enum variant. -/
structure VariantName where
  text : String
  plain : ∀ c ∈ text.toList, c ≠ '`' ∧ c ≠ '"' ∧ c ≠ ':'

def VariantName.ticked (name : VariantName) : List Char := '`' :: (name.text.toList ++ ['`'])

def listNames : List VariantName → List Char
  | [] => []
  | [name] => name.ticked
  | name :: other :: names => name.ticked ++ (", ".toList ++ listNames (other :: names))

/-- The known variants as Serde lists them. -/
def oneOf : List VariantName → List Char
  | [name] => name.ticked
  | [name, other] => name.ticked ++ (" or ".toList ++ other.ticked)
  | names => "one of ".toList ++ listNames names

/-- Where a variant of an enum was expected. -/
structure VariantPlace where
  name : VariantName
  others : List VariantName
  position : Option (Nat × Nat)

def VariantPlace.place (place : VariantPlace) : Place :=
  ⟨String.ofList (oneOf (place.name :: place.others)), place.position⟩

/-- What follows `expected`. -/
def VariantPlace.rest (place : VariantPlace) : List Char :=
  oneOf (place.name :: place.others) ++ place.place.positionText

def afterTick : List Char → List Char
  | [] => []
  | c :: cs => if c = '`' then cs else afterTick cs

/-- The end of the first marker. -/
def markerEnd (cs : List Char) : Option Nat :=
  ([invalidTypeMarker, invalidValueMarker].filterMap fun marker => (findText marker cs).map (· + marker.length)).min?

/-- A text around its first character with `p`. -/
def splitFirst (p : Char → Bool) : List Char → Option (List Char × Char × List Char)
  | [] => none
  | c :: cs => if p c then some ([], c, cs) else (splitFirst p cs).map fun (before, d, after) => (c :: before, d, after)

/-- What shows of a variant with the text after it, and whether the cut goes on into the list of the known variants. -/
def variantShown (cs : List Char) : List Char × Bool :=
  match markerEnd cs with
  | none => (cs ++ '`' :: expectedText, false)
  | some start =>
    match splitFirst isDelimiter (cs.drop start) with
    | none => (trimEnd cs, true)
    | some (word, d, inside) =>
      match splitFirst (· = d) inside with
      | some (_, _, after) => (trimEnd (cs.take start ++ word) ++ (after ++ '`' :: expectedText), false)
      | none =>
        if d = '`' then (trimEnd (cs.take start ++ word) ++ expectedText, false) else (cs ++ '`' :: expectedText, false)

theorem splitFirst_none {p : Char → Bool} : ∀ {cs : List Char}, splitFirst p cs = none → ∀ c ∈ cs, p c = false
  | [], _ => fun _ h => absurd h List.not_mem_nil
  | c :: cs, h => by
    rw [splitFirst] at h
    split at h
    · cases h
    · rename_i hc
      exact List.forall_mem_cons.mpr ⟨by simpa using hc, splitFirst_none (Option.map_eq_none_iff.mp h)⟩

theorem splitFirst_some {p : Char → Bool} : ∀ {cs before after : List Char} {d : Char},
    splitFirst p cs = some (before, d, after) → cs = before ++ d :: after ∧ (∀ c ∈ before, p c = false) ∧ p d = true
  | [], _, _, _, h => by cases h
  | c :: cs, before, after, d, h => by
    rw [splitFirst] at h
    split at h
    · rename_i hc
      cases h
      exact ⟨rfl, fun _ hmem => absurd hmem List.not_mem_nil, hc⟩
    · rename_i hc
      obtain ⟨⟨before', d', after'⟩, hsplit, heq⟩ := Option.map_eq_some_iff.mp h
      cases heq
      obtain ⟨rfl, hbefore, hd⟩ := splitFirst_some hsplit
      exact ⟨rfl, List.forall_mem_cons.mpr ⟨by simpa using hc, hbefore⟩, hd⟩

/-! ### Markers -/

theorem isPrefixOf_cut {needle rest : List Char} {c : Char} : ∀ {cs : List Char}, c ∉ needle →
    needle.isPrefixOf (cs ++ c :: rest) = needle.isPrefixOf cs := by
  induction needle with
  | nil => intro cs _; simp
  | cons n needle ih =>
    intro cs hc
    rw [List.mem_cons, not_or] at hc
    cases cs with
    | nil => simp [List.isPrefixOf, Ne.symm hc.1]
    | cons d cs => simp [List.isPrefixOf, ih hc.2]

theorem isPrefixOf_of_not_mem {needle cs : List Char} {d : Char} (hd : d ∈ needle) (hcs : d ∉ cs) :
    needle.isPrefixOf cs = false := by
  rw [Bool.eq_false_iff]
  intro h
  exact hcs ((List.isPrefixOf_iff_prefix.mp h).subset hd)

theorem findText_of_not_mem {needle : List Char} {d : Char} (hd : d ∈ needle) : ∀ {cs : List Char}, d ∉ cs →
    findText needle cs = none
  | [], _ => rfl
  | c :: cs, h => by
    rw [findText, isPrefixOf_of_not_mem hd h]
    rw [List.mem_cons, not_or] at h
    simp [findText_of_not_mem hd h.2]

/-- A text is found before a character that it does not have, or not at all. -/
theorem findText_cut {needle rest : List Char} {c d : Char} (hc : c ∉ needle) (hd : d ∈ needle) (hne : d ≠ c)
    (hrest : d ∉ rest) : ∀ cs : List Char, findText needle (cs ++ c :: rest) = findText needle cs
  | [] => findText_of_not_mem hd (by rw [List.nil_append, List.mem_cons, not_or]; exact ⟨hne, hrest⟩)
  | e :: cs => by
    have hstarts : needle.isPrefixOf (e :: cs ++ c :: rest) = needle.isPrefixOf (e :: cs) := isPrefixOf_cut hc
    rw [List.cons_append, findText, findText, findText_cut hc hd hne hrest cs]
    rw [List.cons_append] at hstarts
    rw [hstarts]

def variantPrefix : List Char := "unknown variant `".toList

theorem findText_variantPrefix {marker : List Char} (hmarker : marker ∈ [invalidTypeMarker, invalidValueMarker])
    (cs : List Char) : findText marker (variantPrefix ++ cs) = (findText marker cs).map (· + variantPrefix.length) := by
  have hlength : variantPrefix.length = 17 := by decide
  rw [hlength]
  have hsteps : findText marker (variantPrefix ++ cs) =
      ((((((((((((((((((findText marker cs).map (· + 1)).map (· + 1)).map (· + 1)).map (· + 1)).map (· + 1)).map
        (· + 1)).map (· + 1)).map (· + 1)).map (· + 1)).map (· + 1)).map
      (· + 1)).map (· + 1)).map (· + 1)).map (· + 1)).map (· + 1)).map (· + 1)).map (· + 1)) := by
    simp only [List.mem_cons, List.not_mem_nil, or_false] at hmarker
    rcases hmarker with rfl | rfl <;> rfl
  rw [hsteps]
  cases findText marker cs <;> rfl

theorem markerEnd_variant {rest : List Char} (hrest : ':' ∉ rest) (cs : List Char) :
    markerEnd (variantPrefix ++ (cs ++ '`' :: rest)) = (markerEnd cs).map (variantPrefix.length + ·) := by
  have hfind : ∀ marker ∈ [invalidTypeMarker, invalidValueMarker],
      findText marker (variantPrefix ++ (cs ++ '`' :: rest)) = (findText marker cs).map (· + variantPrefix.length) := by
    intro marker hmarker
    have hsides : '`' ∉ marker ∧ ':' ∈ marker := by
      simp only [List.mem_cons, List.not_mem_nil, or_false] at hmarker
      rcases hmarker with rfl | rfl <;> decide
    rw [findText_variantPrefix hmarker, findText_cut hsides.1 hsides.2 (by decide) hrest]
  unfold markerEnd
  simp only [List.filterMap_cons, List.filterMap_nil, hfind invalidTypeMarker (by simp),
    hfind invalidValueMarker (by simp)]
  cases findText invalidTypeMarker cs <;> cases findText invalidValueMarker cs <;> simp [List.min?] <;> omega

theorem findText_le {needle : List Char} : ∀ {cs : List Char} {n : Nat}, findText needle cs = some n →
    n + needle.length ≤ cs.length
  | [], _, h => by cases h
  | c :: cs, n, h => by
    rw [findText] at h
    split at h
    · rename_i hstarts
      cases h
      have hle := (List.isPrefixOf_iff_prefix.mp hstarts).length_le
      omega
    · obtain ⟨k, hk, rfl⟩ := Option.map_eq_some_iff.mp h
      have hle := findText_le hk
      rw [List.length_cons]
      omega

theorem markerEnd_le {cs : List Char} {start : Nat} (h : markerEnd cs = some start) : start ≤ cs.length := by
  obtain ⟨marker, -, hmarker⟩ := List.mem_filterMap.mp (List.min?_mem h)
  obtain ⟨n, hn, rfl⟩ := Option.map_eq_some_iff.mp hmarker
  exact findText_le hn

theorem redact_unmarked {message : List Char} (h : markerEnd message = none) : redactSerdeValue message = message := by
  unfold markerEnd at h
  unfold redactSerdeValue
  simp only [h]

/-- Without a second delimiter nothing is cut. -/
theorem redact_unclosed {front word hidden : List Char} {d : Char}
    (hstart : markerEnd (front ++ (word ++ d :: hidden)) = some front.length)
    (hword : ∀ c ∈ word, isDelimiter c = false) (hd : isDelimiter d = true) (hhidden : d ∉ hidden) :
    redactSerdeValue (front ++ (word ++ d :: hidden)) = front ++ (word ++ d :: hidden) := by
  have hopen : (word ++ d :: hidden).findIdx? isDelimiter = some word.length := findIdx?_first hword hd
  have hclose : hidden.findIdx? (fun c => decide (c = d)) = none :=
    List.findIdx?_eq_none_iff.mpr fun c hc => decide_eq_false fun heq => hhidden (heq ▸ hc)
  have hget : (word ++ d :: hidden).getD word.length '"' = d := by simp
  unfold markerEnd at hstart
  unfold redactSerdeValue
  simp only [hstart, List.drop_left, hopen, hget, drop_after, hclose]

theorem trimEnd_append {cs : List Char} {c : Char} (hc : isWhitespace c = false) (front : List Char) :
    trimEnd (front ++ c :: cs) = front ++ c :: trimEnd cs := by
  have hreverse : (front ++ c :: cs).reverse = cs.reverse ++ c :: front.reverse := by simp
  rw [trimEnd, trimEnd, hreverse, List.dropWhile_append]
  split
  · rename_i hempty
    rw [List.isEmpty_iff] at hempty
    simp [hc, hempty]
  · simp

/-! ### Listings -/

/-- A list of variants, with what follows its first backtick. -/
structure Listing (rest listed : List Char) : Prop where
  split : ∃ before, '`' ∉ before ∧ rest = before ++ '`' :: listed
  quote : '"' ∉ rest
  colon : ':' ∉ rest

theorem afterTick_split : ∀ {cs : List Char}, '`' ∈ cs → ∃ before, '`' ∉ before ∧ cs = before ++ '`' :: afterTick cs
  | c :: cs, h => by
    by_cases hc : c = '`'
    · exact ⟨[], List.not_mem_nil, by simp [afterTick, hc]⟩
    · obtain ⟨before, hbefore, hsplit⟩ := afterTick_split ((List.mem_cons.mp h).resolve_left (Ne.symm hc))
      refine ⟨c :: before, ?_, ?_⟩
      · rw [List.mem_cons, not_or]
        exact ⟨Ne.symm hc, hbefore⟩
      · rw [afterTick, if_neg hc, List.cons_append, ← hsplit]

def plainChar (c : Char) : Bool := c ≠ '"' && c ≠ ':'

theorem plain_ticked (name : VariantName) : name.ticked.all plainChar = true := by
  have hname : name.text.toList.all plainChar = true :=
    List.all_eq_true.mpr fun c hc => by simp [plainChar, (name.plain c hc).2.1, (name.plain c hc).2.2]
  simp only [VariantName.ticked, List.all_cons, List.all_append, hname]
  decide

theorem plain_listNames : ∀ names : List VariantName, (listNames names).all plainChar = true
  | [] => rfl
  | [name] => plain_ticked name
  | name :: other :: names => by
    have ih := plain_listNames (other :: names)
    rw [listNames, List.all_append, List.all_append, plain_ticked, ih]
    decide

theorem plain_oneOf (names : List VariantName) : (oneOf names).all plainChar = true := by
  unfold oneOf
  split
  · exact plain_ticked _
  · simp only [List.all_append, plain_ticked]
    decide
  · simp only [List.all_append, plain_listNames]
    decide

theorem plain_number (n : Nat) : (toString n).toList.all plainChar = true := by
  refine List.all_eq_true.mpr fun c hc => ?_
  have htext : (toString n).toList = Nat.toDigits 10 n := by simp [toString]
  rw [htext] at hc
  have hdigit := Nat.isDigit_of_mem_toDigits (by decide) (by decide) hc
  rw [plainChar, Bool.and_eq_true, decide_eq_true_eq, decide_eq_true_eq]
  constructor <;> (rintro rfl; exact absurd hdigit (by decide))

theorem plain_positionText (place : Place) : place.positionText.all plainChar = true := by
  unfold Place.positionText
  split
  · rfl
  · simp only [List.all_append, plain_number]
    decide

theorem tick_mem_oneOf (name : VariantName) (others : List VariantName) : '`' ∈ oneOf (name :: others) := by
  have hname : '`' ∈ name.ticked := List.mem_cons_self
  unfold oneOf
  split
  · rename_i h
    cases h
    exact hname
  · rename_i h
    cases h
    exact List.mem_append_left _ hname
  · refine List.mem_append_right _ ?_
    cases others with
    | nil => exact hname
    | cons other others => exact List.mem_append_left _ hname

theorem VariantPlace.listing (place : VariantPlace) : Listing place.rest (afterTick place.rest) := by
  have hplain : place.rest.all plainChar = true := by
    rw [VariantPlace.rest, List.all_append, plain_oneOf, plain_positionText]
    rfl
  have hnot : ∀ c, plainChar c = false → c ∉ place.rest := fun c hc hmem => by
    rw [List.all_eq_true.mp hplain c hmem] at hc
    cases hc
  exact ⟨afterTick_split (List.mem_append_left _ (tick_mem_oneOf _ _)), hnot '"' (by decide), hnot ':' (by decide)⟩

theorem redact_variant {rest listed : List Char} (h : Listing rest listed) (cs : List Char) :
    redactSerdeValue (variantPrefix ++ (cs ++ '`' :: (expectedText ++ rest))) =
      variantPrefix ++ ((variantShown cs).1 ++ if (variantShown cs).2 then listed else rest) := by
  obtain ⟨before, hbefore, hsplit⟩ := h.split
  have hrest : ':' ∉ expectedText ++ rest := by
    rw [List.mem_append, not_or]
    exact ⟨by decide, h.colon⟩
  have hticks : '`' ∉ expectedText ++ before := by
    rw [List.mem_append, not_or]
    exact ⟨by decide, hbefore⟩
  have hquote : '"' ∉ expectedText ++ rest := by
    rw [List.mem_append, not_or]
    exact ⟨by decide, h.quote⟩
  have hfront : variantPrefix = "unknown variant ".toList ++ ['`'] := by decide
  have htrim : ∀ text, trimEnd (variantPrefix ++ text) = variantPrefix ++ trimEnd text := fun text => by
    rw [hfront, List.append_assoc, List.append_assoc]
    exact trimEnd_append (c := '`') (by decide) "unknown variant ".toList
  have hend := markerEnd_variant hrest cs
  cases hmarker : markerEnd cs with
  | none =>
    have hshown : variantShown cs = (cs ++ '`' :: expectedText, false) := by simp only [variantShown, hmarker]
    rw [hmarker] at hend
    rw [hshown, redact_unmarked hend]
    simp
  | some start =>
    rw [hmarker] at hend
    have hlength : (variantPrefix ++ cs.take start).length = variantPrefix.length + start := by
      rw [List.length_append, List.length_take, Nat.min_eq_left (markerEnd_le hmarker)]
    have htake := List.take_append_drop start cs
    rw [Option.map_some, ← hlength] at hend
    cases hopen : splitFirst isDelimiter (cs.drop start) with
    | none =>
      -- the closing backtick of the variant opens, and the first one of the list closes
      have hshown : variantShown cs = (trimEnd cs, true) := by simp only [variantShown, hmarker, hopen]
      have hmessage : variantPrefix ++ (cs ++ '`' :: (expectedText ++ rest)) =
          (variantPrefix ++ cs.take start) ++ (cs.drop start ++ '`' :: ((expectedText ++ before) ++
            '`' :: listed)) := by
        simp only [hsplit, List.append_assoc]
        rw [← List.append_assoc (cs.take start), htake]
      rw [hmessage] at hend ⊢
      rw [hshown, redact_parts hend (splitFirst_none hopen) (by decide) hticks, List.append_assoc, htake, htrim]
      simp
    | some found =>
      obtain ⟨word, d, inside⟩ := found
      obtain ⟨hregion, hword, hd⟩ := splitFirst_some hopen
      cases hclose : splitFirst (· = d) inside with
      | some found =>
        obtain ⟨hidden, d', after⟩ := found
        have hshown : variantShown cs = (trimEnd (cs.take start ++ word) ++ (after ++ '`' :: expectedText), false) := by
          simp only [variantShown, hmarker, hopen, hclose]
        obtain ⟨rfl, hhidden, hd'⟩ := splitFirst_some hclose
        obtain rfl : d' = d := by simpa using hd'
        have hmessage : variantPrefix ++ (cs ++ '`' :: (expectedText ++ rest)) = (variantPrefix ++ cs.take start) ++
            (word ++ d' :: (hidden ++ d' :: (after ++ '`' :: (expectedText ++ rest)))) := by
          conv_lhs => rw [← htake, hregion]
          simp
        rw [hmessage] at hend ⊢
        rw [hshown, redact_parts hend hword hd fun hmem => by simpa using hhidden _ hmem, List.append_assoc, htrim]
        simp
      | none =>
        have hinside : d ∉ inside := fun hmem => by simpa using splitFirst_none hclose _ hmem
        have hmessage : variantPrefix ++ (cs ++ '`' :: (expectedText ++ rest)) = (variantPrefix ++ cs.take start) ++
            (word ++ d :: (inside ++ '`' :: (expectedText ++ rest))) := by
          conv_lhs => rw [← htake, hregion]
          simp
        by_cases hback : d = '`'
        · subst hback
          have hshown : variantShown cs = (trimEnd (cs.take start ++ word) ++ expectedText, false) := by
            simp only [variantShown, hmarker, hopen, hclose, if_true]
          rw [hmessage] at hend ⊢
          rw [hshown, redact_parts hend hword hd hinside, List.append_assoc, htrim]
          simp
        · have hd' : d = '"' := by simpa [isDelimiter, hback] using hd
          subst hd'
          have hshown : variantShown cs = (cs ++ '`' :: expectedText, false) := by
            simp only [variantShown, hmarker, hopen, hclose, if_neg hback]
          have hall : '"' ∉ inside ++ '`' :: (expectedText ++ rest) := by
            rw [List.mem_append, List.mem_cons, not_or, not_or]
            exact ⟨hinside, by decide, hquote⟩
          rw [hmessage] at hend
          have hkept := redact_unclosed hend hword hd hall
          rw [← hmessage] at hkept
          rw [hshown, hkept]
          simp

/-! ### Details of unknown variants -/

/-- Texts that agree up to a bound with either of two different ends. -/
theorem take_eq_of_ends {m : Nat} {u v e f : List Char} (hends : e[0]? ≠ f[0]?)
    (he : (u ++ e).take m = (v ++ e).take m) (hf : (u ++ f).take m = (v ++ f).take m) : u.take m = v.take m := by
  -- a shorter text that is not cut off shows both ends in one place
  have hlong : ∀ {u v : List Char}, u.length < v.length → (u ++ e).take m = (v ++ e).take m →
      (u ++ f).take m = (v ++ f).take m → m ≤ u.length := by
    intro u v hlt he hf
    by_contra hshort
    have hplace : ∀ g : List Char, (u ++ g).take m = (v ++ g).take m → g[0]? = v[u.length]? := by
      intro g hg
      have hget := congrArg (·[u.length]?) hg
      simp only [List.getElem?_take_of_lt (Nat.lt_of_not_le hshort), List.getElem?_append_right (Nat.le_refl _),
        List.getElem?_append_left hlt, Nat.sub_self] at hget
      exact hget
    exact hends ((hplace e he).trans (hplace f hf).symm)
  rcases Nat.lt_trichotomy u.length v.length with hlt | heq | hgt
  · have hm := hlong hlt he hf
    rwa [List.take_append_of_le_length hm, List.take_append_of_le_length (by omega)] at he
  · rw [List.take_append, List.take_append, heq] at he
    exact List.append_cancel_right he
  · have hm := hlong hgt he.symm hf.symm
    rwa [List.take_append_of_le_length (by omega), List.take_append_of_le_length hm] at he

/-- The detail of an unknown variant. -/
def variantDetail (variant : String) (place : VariantPlace) : String :=
  sanitizedSerdeJsonErrorDetail (unknownVariantMessage variant place.place)

def variantRoom : Nat := untrustedErrorDetailMaxChars - variantPrefix.length

/-- Unknown variants of which the same shows up to the bound. Where the cut goes on into the known variants, it shows
only against another such variant, or behind the bound. -/
def VariantsAlike (variant other : String) : Prop :=
  (visibleChars (variantShown variant.toList).1).take variantRoom =
      (visibleChars (variantShown other.toList).1).take variantRoom ∧
    ((variantShown variant.toList).2 = (variantShown other.toList).2 ∨
      variantRoom ≤ (visibleChars (variantShown variant.toList).1).length)

/-- What comes after what shows of a variant. -/
def VariantPlace.tail (place : VariantPlace) (cs : List Char) : List Char :=
  if (variantShown cs).2 then afterTick place.rest else place.rest

theorem visibleChars_append (cs ds : List Char) : visibleChars (cs ++ ds) = visibleChars cs ++ visibleChars ds :=
  List.filter_append ..

theorem variantDetail_eq (variant : String) (place : VariantPlace) : variantDetail variant place =
    String.ofList (variantPrefix ++ (visibleChars (variantShown variant.toList).1 ++
      visibleChars (place.tail variant.toList)).take variantRoom) := by
  have hmessage : unknownVariantMessage variant place.place =
      variantPrefix ++ (variant.toList ++ '`' :: (expectedText ++ place.rest)) := by
    have hexpected : place.place.expected.toList = oneOf (place.name :: place.others) := by
      simp only [VariantPlace.place, String.toList_ofList]
    unfold unknownVariantMessage Place.text VariantPlace.rest variantPrefix
    rw [hexpected]
  have hvisible : visibleChars variantPrefix = variantPrefix := by decide
  have hshort : variantPrefix.take untrustedErrorDetailMaxChars = variantPrefix := by decide
  have hblank : variantPrefix.all isWhitespace = false := by decide
  rw [variantDetail, sanitizedSerdeJsonErrorDetail, hmessage, redact_variant place.listing,
    sanitize_front hvisible hshort hblank, visibleChars_append, variantRoom, VariantPlace.tail]

/-! ### Pairs of unknown variants -/

theorem plain_singleton {c : Char} (h : c ≠ '`' ∧ c ≠ '"' ∧ c ≠ ':') :
    ∀ d ∈ (String.singleton c).toList, d ≠ '`' ∧ d ≠ '"' ∧ d ≠ ':' := by
  intro d hd
  rw [String.toList_singleton, List.mem_singleton] at hd
  rwa [hd]

def nameA : VariantName := ⟨String.singleton 'a', plain_singleton (by decide)⟩

def nameB : VariantName := ⟨String.singleton 'b', plain_singleton (by decide)⟩

/-- Enums whose lists of variants differ at the front, before and after the first backtick. -/
def placeA : VariantPlace := ⟨nameA, [], none⟩

def placeB : VariantPlace := ⟨nameB, [], none⟩

def placeMany : VariantPlace := ⟨nameA, [nameA, nameB], none⟩

theorem getElem?_take_append {m : Nat} {u e : List Char} (h : u.length < m) : ((u ++ e).take m)[u.length]? = e[0]? := by
  rw [List.getElem?_take_of_lt h, List.getElem?_append_right (Nat.le_refl _), Nat.sub_self]

theorem getElem?_take_left {m k : Nat} {u e : List Char} (h : k < u.length) (hm : k < m) :
    ((u ++ e).take m)[k]? = u[k]? := by
  rw [List.getElem?_take_of_lt hm, List.getElem?_append_left h]

/-- Before and after the first backtick the lists go on differently, so that only texts which are cut off agree. -/
theorem long_of_mixed {m : Nat} {u v : List Char}
    (hA : (u ++ "a`".toList).take m = (v ++ "`a`".toList).take m) (hB : (u ++ "b`".toList).take m =
      (v ++ "`b`".toList).take m)
    (hmany : (u ++ "a`, `a`, `b`".toList).take m = (v ++ "one of `a`, `a`, `b`".toList).take m) :
    m ≤ u.length ∧ u.take m = v.take m := by
  -- the second text does not end inside of the first
  have hfront : v.length < m → u.length ≤ v.length := by
    intro hv
    by_contra hlt
    have hlt := Nat.lt_of_not_le hlt
    have h₁ := congrArg (·[v.length]?) hA
    have h₂ := congrArg (·[v.length]?) hmany
    simp only [getElem?_take_append hv, getElem?_take_left hlt hv] at h₁ h₂
    exact absurd (h₁.symm.trans h₂) (by decide)
  have hu : m ≤ u.length := by
    by_contra hshort
    have hshort := Nat.lt_of_not_le hshort
    have h₁ := congrArg (·[u.length]?) hA
    have h₂ := congrArg (·[u.length]?) hB
    simp only [getElem?_take_append hshort] at h₁ h₂
    rcases Nat.lt_or_ge u.length v.length with hlt | hge
    · rw [getElem?_take_left hlt hshort] at h₁ h₂
      exact absurd (h₁.trans h₂.symm) (by decide)
    · have hsame : u.length = v.length := Nat.le_antisymm (hfront (by omega)) hge
      rw [hsame, getElem?_take_append (by omega)] at h₁
      exact absurd h₁ (by decide)
  have hv : m ≤ v.length := by
    by_contra hshort
    have hle := hfront (Nat.lt_of_not_le hshort)
    omega
  rw [List.take_append_of_le_length hu, List.take_append_of_le_length hv] at hA
  exact ⟨hu, hA⟩

theorem tail_of_listed {place : VariantPlace} {cs : List Char} (h : (variantShown cs).2 = true) :
    place.tail cs = afterTick place.rest := if_pos h

theorem tail_of_rest {place : VariantPlace} {cs : List Char} (h : (variantShown cs).2 = false) :
    place.tail cs = place.rest := if_neg (by rw [h]; exact Bool.false_ne_true)

theorem variantDetail_eq_iff {variant other : String} {place : VariantPlace} :
    variantDetail variant place = variantDetail other place ↔
      (visibleChars (variantShown variant.toList).1 ++ visibleChars (place.tail variant.toList)).take variantRoom =
        (visibleChars (variantShown other.toList).1 ++ visibleChars (place.tail other.toList)).take variantRoom := by
  rw [variantDetail_eq, variantDetail_eq, String.ofList_inj, List.append_cancel_left_eq]

/-- The details of two unknown variants agree, whatever is expected and wherever, exactly when the variants are
alike. -/
theorem variantDetail_same_iff (variant other : String) :
    (∀ place, variantDetail variant place = variantDetail other place) ↔ VariantsAlike variant other := by
  simp only [variantDetail_eq_iff]
  unfold VariantsAlike
  constructor
  · intro h
    have hA := h placeA
    have hB := h placeB
    have hmany := h placeMany
    cases hx : (variantShown variant.toList).2 with
    | true =>
      cases hy : (variantShown other.toList).2 with
      | true =>
        rw [tail_of_listed hx, tail_of_listed hy] at hA hB
        exact ⟨take_eq_of_ends (by decide) hA hB, .inl rfl⟩
      | false =>
        rw [tail_of_listed hx, tail_of_rest hy] at hA hB hmany
        obtain ⟨hlong, htake⟩ := long_of_mixed hA hB hmany
        exact ⟨htake, .inr hlong⟩
    | false =>
      cases hy : (variantShown other.toList).2 with
      | true =>
        rw [tail_of_rest hx, tail_of_listed hy] at hA hB hmany
        obtain ⟨hlong, htake⟩ := long_of_mixed hA.symm hB.symm hmany.symm
        refine ⟨htake.symm, .inr ?_⟩
        have hlength := congrArg List.length htake
        rw [List.length_take, List.length_take] at hlength
        omega
      | false =>
        rw [tail_of_rest hx, tail_of_rest hy] at hA hmany
        exact ⟨take_eq_of_ends (by decide) hA hmany, .inl rfl⟩
  · rintro ⟨htake, hsame | hlong⟩ place
    · have htail : place.tail variant.toList = place.tail other.toList := by
        rw [VariantPlace.tail, VariantPlace.tail, hsame]
      rw [htail]
      exact take_append_of_take htake _
    · have hlength := congrArg List.length htake
      rw [List.length_take, List.length_take] at hlength
      rw [List.take_append_of_le_length hlong, List.take_append_of_le_length (by omega)]
      exact htake

/-- Two mistyped values of one JSON kind have the same details exactly when they are alike: when both are booleans,
integers or floats, or strings with the same text after their first quote; strings without a quote always are. Two
unknown variants have the same details exactly when the same shows of them. -/
theorem redaction_exact (isPrintable : Char → Bool) :
    (∀ mismatch x y, x.kind = y.kind →
      ((∀ place, Mismatch.detail isPrintable mismatch x place = Mismatch.detail isPrintable mismatch y place) ↔
        Alike isPrintable mismatch x y)) ∧
    (∀ mismatch s t, '"' ∉ s.toList → '"' ∉ t.toList → Alike isPrintable mismatch (.string s) (.string t)) ∧
    ∀ variant other, (∀ place, variantDetail variant place = variantDetail other place) ↔ VariantsAlike variant other :=
  ⟨fun mismatch _ _ => detail_same_iff isPrintable mismatch, fun mismatch _ _ => alike_of_no_quote isPrintable mismatch,
    variantDetail_same_iff⟩

theorem redaction_exact_integers :
    Mismatch.invalidType.detail (fun _ => true) (.integer 4111) ⟨"a string", some (1, 17)⟩ =
      Mismatch.invalidType.detail (fun _ => true) (.integer 5222) ⟨"a string", some (1, 17)⟩ :=
  ((redaction_exact _).1 .invalidType (.integer 4111) (.integer 5222) rfl).mpr trivial _

/-- What follows a quote in a string is in the detail. -/
theorem redaction_quote :
    Mismatch.invalidType.detail (fun _ => true) (.string "\"secret1") ⟨"u32", none⟩ =
      "invalid type: stringsecret1\", expected u32" ∧
    Mismatch.invalidType.detail (fun _ => true) (.string "\"secret1") ⟨"u32", none⟩ ≠
      Mismatch.invalidType.detail (fun _ => true) (.string "\"secret2") ⟨"u32", none⟩ := by
  decide

end Vectis.Core.ErrorDetail

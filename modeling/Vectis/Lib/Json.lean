import Mathlib.Algebra.Order.Ring.Nat

/-!
# JSON

Values with ordered objects. `plain` values have no floating-point numbers, integers of 64 bits, and objects with
strictly increasing keys; `depth` is the nesting of arrays and objects.

- `Value.render`: the compact text of a value;
- `parse`: the value of a text, with a limit on its depth;
- `parse_render`: a plain value is read back from its text.
-/

namespace Json

/-- Integers in 64 bits, anything else as its text. -/
inductive Number
  | posInt (n : Nat)
  | negInt (n : Nat)
  | float (text : String)
  deriving DecidableEq, Repr

inductive Value
  | null
  | bool (b : Bool)
  | number (n : Number)
  | string (s : String)
  | array (items : List Value)
  | object (entries : List (String × Value))

def charsLt : List Char → List Char → Bool
  | _, [] => false
  | [], _ :: _ => true
  | c :: cs, d :: ds => c.toNat < d.toNat || (c = d && charsLt cs ds)

/-- The order of keys: by code points, first difference first. -/
def keyLt (a b : String) : Bool := charsLt a.toList b.toList

def Number.plain : Number → Bool
  | .posInt n => n < 2 ^ 64
  | .negInt n => 0 < n && n ≤ 2 ^ 63
  | .float _ => false

mutual

def Value.plain : Value → Bool
  | .null | .bool _ | .string _ => true
  | .number n => n.plain
  | .array items => plainItems items
  | .object entries => plainEntries entries

def plainItems : List Value → Bool
  | [] => true
  | item :: items => item.plain && plainItems items

def plainEntries : List (String × Value) → Bool
  | [] => true
  | [entry] => plainEntry entry
  | entry :: next :: entries => plainEntry entry && keyLt entry.1 next.1 && plainEntries (next :: entries)

def plainEntry : String × Value → Bool
  | (_, value) => value.plain

end

mutual

def Value.depth : Value → Nat
  | .null | .bool _ | .string _ | .number _ => 0
  | .array items => depthItems items + 1
  | .object entries => depthEntries entries + 1

def depthItems : List Value → Nat
  | [] => 0
  | item :: items => max item.depth (depthItems items)

def depthEntries : List (String × Value) → Nat
  | [] => 0
  | entry :: entries => max (depthEntry entry) (depthEntries entries)

def depthEntry : String × Value → Nat
  | (_, value) => value.depth

end

section Keys

variable (p : String → Bool)

mutual

/-- The keys of all objects, at any depth, satisfy `p`. -/
def Value.allKeys : Value → Bool
  | .array items => allKeysItems items
  | .object entries => allKeysEntries entries
  | _ => true

def allKeysItems : List Value → Bool
  | [] => true
  | item :: items => item.allKeys && allKeysItems items

def allKeysEntries : List (String × Value) → Bool
  | [] => true
  | entry :: entries => allKeysEntry entry && allKeysEntries entries

def allKeysEntry : String × Value → Bool
  | (key, value) => p key && value.allKeys

end

end Keys

/-- `value.get(key)`. -/
def Value.get (key : String) : Value → Option Value
  | .object entries => (entries.find? fun entry => entry.1 = key).map Prod.snd
  | _ => none

def Value.asStr : Value → Option String
  | .string s => some s
  | _ => none

def Value.isObject : Value → Bool
  | .object _ => true
  | _ => false


/-! ## Text -/

def hexChar (n : Nat) : Char := if n < 10 then Char.ofNat (48 + n) else Char.ofNat (87 + n)

/-- Quotes, backslashes and control characters are escaped. -/
def escapeChar (c : Char) : List Char :=
  if c = '"' then ['\\', '"']
  else if c = '\\' then ['\\', '\\']
  else if c = '\x08' then ['\\', 'b']
  else if c = '\x0c' then ['\\', 'f']
  else if c = '\n' then ['\\', 'n']
  else if c = '\r' then ['\\', 'r']
  else if c = '\t' then ['\\', 't']
  else if c.toNat < 0x20 then ['\\', 'u', '0', '0', hexChar (c.toNat / 16), hexChar (c.toNat % 16)]
  else [c]

def renderString (s : String) : List Char := '"' :: s.toList.flatMap escapeChar ++ ['"']

def renderNumber : Number → List Char
  | .posInt n => Nat.toDigits 10 n
  | .negInt n => '-' :: Nat.toDigits 10 n
  | .float text => text.toList

mutual

/-- The compact text of a value. -/
def Value.render : Value → List Char
  | .null => ['n', 'u', 'l', 'l']
  | .bool true => ['t', 'r', 'u', 'e']
  | .bool false => ['f', 'a', 'l', 's', 'e']
  | .number n => renderNumber n
  | .string s => renderString s
  | .array items => '[' :: renderItems items ++ [']']
  | .object entries => '{' :: renderEntries entries ++ ['}']

def renderItems : List Value → List Char
  | [] => []
  | [item] => item.render
  | item :: items => item.render ++ ',' :: renderItems items

def renderEntries : List (String × Value) → List Char
  | [] => []
  | [entry] => renderEntry entry
  | entry :: entries => renderEntry entry ++ ',' :: renderEntries entries

def renderEntry : String × Value → List Char
  | (key, value) => renderString key ++ ':' :: value.render

end

/-! ## Reading -/

def isSpace (c : Char) : Bool := c = ' ' || c = '\n' || c = '\t' || c = '\r'

def hexVal (c : Char) : Option Nat :=
  if '0' ≤ c ∧ c ≤ '9' then some (c.toNat - 48)
  else if 'a' ≤ c ∧ c ≤ 'f' then some (c.toNat - 87)
  else if 'A' ≤ c ∧ c ≤ 'F' then some (c.toNat - 55)
  else none

def hexUnit (a b c d : Char) : Option Nat := do
  some ((← hexVal a) * 4096 + (← hexVal b) * 256 + (← hexVal c) * 16 + (← hexVal d))

def push (c : Char) (result : Option (List Char × List Char)) : Option (List Char × List Char) :=
  result.map fun (cs, rest) => (c :: cs, rest)

/-- A string after its opening quote. -/
def parseString : List Char → Option (List Char × List Char)
  | [] => none
  | '"' :: rest => some ([], rest)
  | '\\' :: rest =>
    match rest with
    | '"' :: rest => push '"' (parseString rest)
    | '\\' :: rest => push '\\' (parseString rest)
    | '/' :: rest => push '/' (parseString rest)
    | 'b' :: rest => push '\x08' (parseString rest)
    | 'f' :: rest => push '\x0c' (parseString rest)
    | 'n' :: rest => push '\n' (parseString rest)
    | 'r' :: rest => push '\r' (parseString rest)
    | 't' :: rest => push '\t' (parseString rest)
    | 'u' :: a :: b :: c :: d :: rest =>
      match hexUnit a b c d with
      | none => none
      | some unit =>
        if 0xd800 ≤ unit ∧ unit < 0xdc00 then
          match rest with
          | '\\' :: 'u' :: e :: f :: g :: h :: rest =>
            match hexUnit e f g h with
            | none => none
            | some low =>
              if 0xdc00 ≤ low ∧ low < 0xe000 then
                push (Char.ofNat (0x10000 + (unit - 0xd800) * 0x400 + (low - 0xdc00))) (parseString rest)
              else none
          | _ => none
        else if 0xdc00 ≤ unit ∧ unit < 0xe000 then none
        else push (Char.ofNat unit) (parseString rest)
    | _ => none
  | c :: rest => if c.toNat < 0x20 then none else push c (parseString rest)

theorem hexVal_hexChar : ∀ n : Fin 16, hexVal (hexChar n) = some n := by decide

theorem parseString_escapeChar (c : Char) (rest : List Char) :
    parseString (escapeChar c ++ rest) = push c (parseString rest) := by
  unfold escapeChar
  split
  · subst_vars; rfl
  split
  · subst_vars; rfl
  split
  · subst_vars; rfl
  split
  · subst_vars; rfl
  split
  · subst_vars; rfl
  split
  · subst_vars; rfl
  split
  · subst_vars; rfl
  split
  · rename_i hctl
    have hhigh := hexVal_hexChar ⟨c.toNat / 16, by omega⟩
    have hlow := hexVal_hexChar ⟨c.toNat % 16, by omega⟩
    have hzero : hexVal '0' = some 0 := by decide
    have hunit : hexUnit '0' '0' (hexChar (c.toNat / 16)) (hexChar (c.toNat % 16)) = some c.toNat := by
      simp only [hexUnit, hzero, hhigh, hlow, Option.bind_eq_bind, Option.bind_some]
      exact congrArg some (by omega)
    show parseString ('\\' :: 'u' :: '0' :: '0' :: hexChar (c.toNat / 16) :: hexChar (c.toNat % 16) :: rest) = _
    rw [parseString]
    simp only [hunit]
    rw [if_neg (by omega), if_neg (by omega), Char.ofNat_toNat]
  · rename_i hquote hslash _ _ _ _ _ hctl
    show parseString (c :: rest) = _
    rw [parseString.eq_def]
    split
    · rename_i h; cases h
    · rename_i h; cases h; exact absurd rfl hquote
    · rename_i h; cases h; exact absurd rfl hslash
    · rename_i h
      cases h
      rw [if_neg hctl]

theorem parseString_escaped (cs rest : List Char) :
    parseString (cs.flatMap escapeChar ++ '"' :: rest) = some (cs, rest) := by
  induction cs with
  | nil => rfl
  | cons c cs ih =>
    rw [List.flatMap_cons, List.append_assoc, parseString_escapeChar, ih]
    rfl

def digits (cs : List Char) : List Char := cs.takeWhile Char.isDigit

def afterDigits (cs : List Char) : List Char := cs.dropWhile Char.isDigit

/-- A number that is not an integer of 64 bits keeps its text. -/
def integer (negative : Bool) (digits : List Char) : Number :=
  let n := Nat.ofDigitChars 10 digits 0
  if negative then
    if 0 < n ∧ n ≤ 2 ^ 63 then .negInt n else .float (String.ofList ('-' :: digits))
  else if n < 2 ^ 64 then .posInt n else .float (String.ofList digits)

def parseFraction : List Char → Option (List Char × List Char)
  | '.' :: cs => if (digits cs).isEmpty then none else some ('.' :: digits cs, afterDigits cs)
  | cs => some ([], cs)

def exponentDigits (sign : List Char) (cs : List Char) : Option (List Char × List Char) :=
  if (digits cs).isEmpty then none else some ('e' :: sign ++ digits cs, afterDigits cs)

def parseExponent : List Char → Option (List Char × List Char)
  | 'e' :: '+' :: cs | 'E' :: '+' :: cs => exponentDigits ['+'] cs
  | 'e' :: '-' :: cs | 'E' :: '-' :: cs => exponentDigits ['-'] cs
  | 'e' :: cs | 'E' :: cs => exponentDigits [] cs
  | cs => some ([], cs)

def parseTail (cs : List Char) : Option (List Char × List Char) := do
  let (fraction, cs) ← parseFraction cs
  let (exponent, cs) ← parseExponent cs
  some (fraction ++ exponent, cs)

/-- The digits of a number, without leading zeros. -/
def parseDigits (cs : List Char) : Option (List Char × List Char) :=
  match digits cs with
  | [] => none
  | '0' :: _ :: _ => none
  | ds => some (ds, afterDigits cs)

def parseUnsigned (negative : Bool) (cs : List Char) : Option (Number × List Char) := do
  let (digits, cs) ← parseDigits cs
  let (tail, cs) ← parseTail cs
  let sign := if negative then ['-'] else []
  some (if tail.isEmpty then integer negative digits else .float (String.ofList (sign ++ digits ++ tail)), cs)

def parseNumber : List Char → Option (Number × List Char)
  | '-' :: cs => parseUnsigned true cs
  | cs => parseUnsigned false cs

/-- Of equal keys the later one stays. -/
def insertEntry (key : String) (value : Value) : List (String × Value) → List (String × Value)
  | [] => [(key, value)]
  | (other, value') :: entries =>
    if keyLt key other then (key, value) :: (other, value') :: entries
    else if key = other then (other, value') :: entries
    else (other, value') :: insertEntry key value entries

mutual

/-- A value, with the nesting that is left; `fuel` bounds the recursion. -/
def parseValue : Nat → Nat → List Char → Option (Value × List Char)
  | 0, _, _ => none
  | fuel + 1, depth, cs =>
    match cs.dropWhile isSpace with
    | 'n' :: 'u' :: 'l' :: 'l' :: rest => some (.null, rest)
    | 't' :: 'r' :: 'u' :: 'e' :: rest => some (.bool true, rest)
    | 'f' :: 'a' :: 'l' :: 's' :: 'e' :: rest => some (.bool false, rest)
    | '"' :: rest => (parseString rest).map fun (cs, rest) => (.string (String.ofList cs), rest)
    | '[' :: rest =>
      if depth = 0 then none
      else
        match rest.dropWhile isSpace with
        | ']' :: rest => some (.array [], rest)
        | rest => (parseItems fuel (depth - 1) rest).map fun (items, rest) => (.array items, rest)
    | '{' :: rest =>
      if depth = 0 then none
      else
        match rest.dropWhile isSpace with
        | '}' :: rest => some (.object [], rest)
        | rest => (parseEntries fuel (depth - 1) rest).map fun (entries, rest) => (.object entries, rest)
    | rest => (parseNumber rest).map fun (n, rest) => (.number n, rest)

/-- The items of an array up to its bracket. -/
def parseItems : Nat → Nat → List Char → Option (List Value × List Char)
  | 0, _, _ => none
  | fuel + 1, depth, cs => do
    let (item, rest) ← parseValue fuel depth cs
    match rest.dropWhile isSpace with
    | ']' :: rest => some ([item], rest)
    | ',' :: rest => do
      let (items, rest) ← parseItems fuel depth rest
      some (item :: items, rest)
    | _ => none

/-- The entries of an object up to its brace. -/
def parseEntries : Nat → Nat → List Char → Option (List (String × Value) × List Char)
  | 0, _, _ => none
  | fuel + 1, depth, cs =>
    match cs.dropWhile isSpace with
    | '"' :: rest => do
      let (key, rest) ← parseString rest
      match rest.dropWhile isSpace with
      | ':' :: rest => do
        let (value, rest) ← parseValue fuel depth rest
        match rest.dropWhile isSpace with
        | '}' :: rest => some ([(String.ofList key, value)], rest)
        | ',' :: rest => do
          let (entries, rest) ← parseEntries fuel depth rest
          some (insertEntry (String.ofList key) value entries, rest)
        | _ => none
      | _ => none
    | _ => none

end

/-- The value of a whole text, nested less deep than `limit`. -/
def parse (limit : Nat) (text : String) : Option Value :=
  match parseValue (text.length + 1) (limit - 1) text.toList with
  | some (value, rest) => if rest.all isSpace then some value else none
  | none => none

/-! ## Normal forms -/

mutual

/-- Objects with their entries in the order of the keys; of equal keys the later one stays. -/
def Value.normalize : Value → Value
  | .array items => .array (normalizeItems items)
  | .object entries => .object (normalizeEntries entries)
  | v => v

def normalizeItems : List Value → List Value
  | [] => []
  | item :: items => item.normalize :: normalizeItems items

def normalizeEntries : List (String × Value) → List (String × Value)
  | [] => []
  | entry :: entries => insertEntry entry.1 (normalizeEntry entry) (normalizeEntries entries)

def normalizeEntry : String × Value → Value
  | (_, value) => value.normalize

end

mutual

/-- All numbers are integers of 64 bits. -/
def Value.integral : Value → Bool
  | .number n => n.plain
  | .array items => integralItems items
  | .object entries => integralEntries entries
  | _ => true

def integralItems : List Value → Bool
  | [] => true
  | item :: items => item.integral && integralItems items

def integralEntries : List (String × Value) → Bool
  | [] => true
  | entry :: entries => integralEntry entry && integralEntries entries

def integralEntry : String × Value → Bool
  | (_, value) => value.integral

end

/-! ## Round trip -/

/-- What comes after a value does not continue a number. -/
def Stops (rest : List Char) : Prop :=
  ∀ c cs, rest = c :: cs → c.isDigit = false ∧ c ≠ '.' ∧ c ≠ 'e' ∧ c ≠ 'E'

theorem digits_append {ds rest : List Char} (hd : ∀ c ∈ ds, c.isDigit = true) (hr : Stops rest) :
    digits (ds ++ rest) = ds ∧ afterDigits (ds ++ rest) = rest := by
  have hrest : rest.takeWhile Char.isDigit = [] ∧ rest.dropWhile Char.isDigit = rest := by
    cases rest with
    | nil => exact ⟨rfl, rfl⟩
    | cons c cs => simp [(hr c cs rfl).1]
  rw [digits, afterDigits, List.takeWhile_append_of_pos hd, List.dropWhile_append_of_pos hd, hrest.1, hrest.2,
    List.append_nil]
  exact ⟨rfl, rfl⟩

theorem toDigits_isDigit {n : Nat} : ∀ c ∈ Nat.toDigits 10 n, c.isDigit = true := fun _ hc =>
  Nat.isDigit_of_mem_toDigits (by decide) (by decide) hc

/-- The digits of a positive number do not begin with zero. -/
theorem toDigits_head {n : Nat} (hn : 0 < n) : ∀ cs, Nat.toDigits 10 n ≠ '0' :: cs := by
  induction n using Nat.strongRecOn with
  | ind n ih =>
    intro cs h
    rcases Nat.lt_or_ge n 10 with hlt | hge
    · rw [Nat.toDigits_of_lt_base hlt, List.cons.injEq, Nat.digitChar_eq_zero] at h
      omega
    · rw [Nat.toDigits_of_base_le (by decide) hge] at h
      cases hd : Nat.toDigits 10 (n / 10) with
      | nil => exact Nat.toDigits_ne_nil hd
      | cons c ds =>
        rw [hd, List.cons_append, List.cons.injEq] at h
        exact ih (n / 10) (by omega) (by omega) ds (by rw [hd, h.1])

theorem parseDigits_toDigits (n : Nat) {rest : List Char} (hr : Stops rest) :
    parseDigits (Nat.toDigits 10 n ++ rest) = some (Nat.toDigits 10 n, rest) := by
  obtain ⟨hdigits, hafter⟩ := digits_append (toDigits_isDigit (n := n)) hr
  unfold parseDigits
  rw [hdigits, hafter]
  split
  · rename_i h
    exact absurd h Nat.toDigits_ne_nil
  · rename_i c cs h
    rcases Nat.eq_zero_or_pos n with rfl | hpos
    · simp at h
    · exact absurd h (toDigits_head hpos _)
  · rfl

theorem parseTail_stops {rest : List Char} (hr : Stops rest) : parseTail rest = some ([], rest) := by
  have hfraction : parseFraction rest = some ([], rest) := by
    unfold parseFraction
    split
    · rename_i cs
      exact absurd rfl (hr '.' cs rfl).2.1
    · rfl
  have hexponent : parseExponent rest = some ([], rest) := by
    unfold parseExponent
    split
    · exact absurd rfl (hr 'e' _ rfl).2.2.1
    · exact absurd rfl (hr 'E' _ rfl).2.2.2
    · exact absurd rfl (hr 'e' _ rfl).2.2.1
    · exact absurd rfl (hr 'E' _ rfl).2.2.2
    · exact absurd rfl (hr 'e' _ rfl).2.2.1
    · exact absurd rfl (hr 'E' _ rfl).2.2.2
    · rfl
  simp [parseTail, hfraction, hexponent]

theorem parseUnsigned_toDigits (negative : Bool) (n : Nat) {rest : List Char} (hr : Stops rest) :
    parseUnsigned negative (Nat.toDigits 10 n ++ rest) = some (integer negative (Nat.toDigits 10 n), rest) := by
  simp [parseUnsigned, parseDigits_toDigits n hr, parseTail_stops hr]

/-- Integers begin with a digit or a sign. -/
theorem renderNumber_head {n : Number} (hn : n.plain = true) :
    ∃ c cs, renderNumber n = c :: cs ∧ (c = '-' ∨ c.isDigit = true) := by
  cases n with
  | posInt n =>
    cases h : Nat.toDigits 10 n with
    | nil => exact absurd h Nat.toDigits_ne_nil
    | cons c cs => exact ⟨c, cs, h, Or.inr (toDigits_isDigit c (by rw [h]; exact List.mem_cons_self))⟩
  | negInt n => exact ⟨'-', _, rfl, Or.inl rfl⟩
  | float text => cases hn

theorem parseNumber_render {n : Number} (hn : n.plain = true) {rest : List Char} (hr : Stops rest) :
    parseNumber (renderNumber n ++ rest) = some (n, rest) := by
  cases n with
  | posInt n =>
    have hlt : n < 2 ^ 64 := by simpa [Number.plain] using hn
    have hminus : ∀ cs, Nat.toDigits 10 n ++ rest ≠ '-' :: cs := by
      intro cs h
      obtain ⟨c, ds, hds⟩ := List.exists_cons_of_ne_nil (Nat.toDigits_ne_nil (n := n) (b := 10))
      have hc := toDigits_isDigit (n := n) c (by rw [hds]; exact List.mem_cons_self)
      rw [hds, List.cons_append, List.cons.injEq] at h
      rw [h.1] at hc
      exact absurd hc (by decide)
    have hunsigned := parseUnsigned_toDigits false n hr
    unfold parseNumber renderNumber
    split
    · rename_i cs h
      exact absurd h (hminus cs)
    · rw [hunsigned]
      simp only [integer, Nat.ofDigitChars_ten_toDigits, Bool.false_eq_true, if_false, if_pos hlt]
  | negInt n =>
    have hrange : 0 < n ∧ n ≤ 2 ^ 63 := by simpa [Number.plain] using hn
    show parseUnsigned true (Nat.toDigits 10 n ++ rest) = _
    rw [parseUnsigned_toDigits true n hr]
    simp only [integer, Nat.ofDigitChars_ten_toDigits, if_true, if_pos hrange]
  | float text => cases hn

/-- The first character of a value. -/
def Starts (c : Char) : Prop := isSpace c = false ∧ c ≠ ']'

theorem starts_of_digit {c : Char} (h : c.isDigit = true) : Starts c := by
  refine ⟨?_, ?_⟩
  · rw [Bool.eq_false_iff]
    intro hs
    simp only [isSpace, Bool.or_eq_true, decide_eq_true_eq] at hs
    rcases hs with ((rfl | rfl) | rfl) | rfl <;> exact absurd h (by decide)
  · rintro rfl
    exact absurd h (by decide)

theorem render_head {v : Value} (hv : v.integral = true) : ∃ c cs, v.render = c :: cs ∧ Starts c := by
  cases v with
  | null => exact ⟨'n', _, rfl, rfl, by decide⟩
  | bool b => cases b <;> exact ⟨_, _, rfl, rfl, by decide⟩
  | number n =>
    obtain ⟨c, cs, hcs, hc⟩ := renderNumber_head (show n.plain = true by simpa [Value.integral] using hv)
    refine ⟨c, cs, by simpa [Value.render] using hcs, ?_⟩
    rcases hc with rfl | hc
    · exact ⟨rfl, by decide⟩
    · exact starts_of_digit hc
  | string s => exact ⟨'"', _, rfl, rfl, by decide⟩
  | array items => exact ⟨'[', _, rfl, rfl, by decide⟩
  | object entries => exact ⟨'{', _, rfl, rfl, by decide⟩

theorem dropWhile_space {c : Char} {cs : List Char} (h : isSpace c = false) :
    (c :: cs).dropWhile isSpace = c :: cs := by
  simp [h]

theorem stops_cons {c : Char} (cs : List Char) (h : c = ',' ∨ c = ']' ∨ c = '}') : Stops (c :: cs) := by
  intro c' cs' heq
  cases heq
  rcases h with rfl | rfl | rfl <;> decide

/-- A key that is smaller than the first one goes to the front. -/
theorem insertEntry_front {key : String} {value : Value} {next : String × Value} {entries : List (String × Value)}
    (h : keyLt key next.1 = true) : insertEntry key value (next :: entries) = (key, value) :: next :: entries := by
  simp [insertEntry, h]

theorem parseString_renderString (s : String) (rest : List Char) :
    parseString (s.toList.flatMap escapeChar ++ ['"'] ++ rest) = some (s.toList, rest) := by
  rw [List.append_assoc]
  exact parseString_escaped s.toList rest

/-- A sign or a digit begins a number. -/
theorem parseValue_number {c : Char} (hc : c = '-' ∨ c.isDigit = true) (fuel depth : Nat) (cs : List Char) :
    parseValue (fuel + 1) depth (c :: cs) = (parseNumber (c :: cs)).map fun (n, rest) => (.number n, rest) := by
  have hspace : isSpace c = false := by
    rcases hc with rfl | hc
    · rfl
    · exact (starts_of_digit hc).1
  have hne : ∀ c', c' ≠ '-' → c'.isDigit = false → c ≠ c' := by
    rintro c' h₁ h₂ rfl
    rcases hc with rfl | hc
    · exact h₁ rfl
    · rw [h₂] at hc; cases hc
  unfold parseValue
  rw [dropWhile_space hspace]
  split
  all_goals
    first
    | rfl
    | (rename_i h; cases h; exact absurd rfl (hne _ (by decide) (by decide)))

theorem renderItems_head {item : Value} {items : List Value} (hp : integralItems (item :: items) = true) :
    ∃ c cs, renderItems (item :: items) = c :: cs ∧ Starts c := by
  obtain ⟨c, cs, hcs, hc⟩ := render_head (v := item) (by rw [integralItems, Bool.and_eq_true] at hp; exact hp.1)
  cases items with
  | nil => exact ⟨c, cs, by rw [renderItems, hcs], hc⟩
  | cons next items => exact ⟨c, cs ++ ',' :: renderItems (next :: items), by simp [renderItems, hcs], hc⟩

theorem renderEntries_head (entry : String × Value) (entries : List (String × Value)) :
    ∃ cs, renderEntries (entry :: entries) = '"' :: cs := by
  obtain ⟨key, value⟩ := entry
  cases entries with
  | nil => exact ⟨_, by rw [renderEntries, renderEntry, renderString, List.cons_append, List.cons_append]⟩
  | cons next entries =>
    exact ⟨key.toList.flatMap escapeChar ++ ['"'] ++ ':' :: value.render ++ ',' :: renderEntries (next :: entries),
      by simp [renderEntries, renderEntry, renderString]⟩

mutual

theorem parseValue_render : ∀ (v : Value) (fuel depth : Nat) (rest : List Char), v.integral = true → v.depth ≤ depth →
    v.render.length ≤ fuel → Stops rest → parseValue fuel depth (v.render ++ rest) = some (v.normalize, rest)
  | v, 0, _, _, hp, _, hf, _ => by
    obtain ⟨c, cs, hcs, -⟩ := render_head hp
    rw [hcs] at hf
    simp at hf
  | .null, fuel + 1, depth, rest, _, _, _, _ => by simp [parseValue, Value.render, isSpace, Value.normalize]
  | .bool true, fuel + 1, depth, rest, _, _, _, _ => by simp [parseValue, Value.render, isSpace, Value.normalize]
  | .bool false, fuel + 1, depth, rest, _, _, _, _ => by simp [parseValue, Value.render, isSpace, Value.normalize]
  | .string s, fuel + 1, depth, rest, _, _, _, _ => by
    have hstr := parseString_renderString s rest
    simp only [Value.render, renderString, List.cons_append, parseValue, dropWhile_space (c := '"') rfl, hstr]
    simp [Value.normalize]
  | .number n, fuel + 1, depth, rest, hp, _, _, hr => by
    have hn : n.plain = true := by simpa [Value.integral] using hp
    have hparse := parseNumber_render hn hr
    obtain ⟨c, cs, hcs, hc⟩ := renderNumber_head hn
    simp only [Value.render]
    rw [hcs, List.cons_append] at hparse ⊢
    rw [parseValue_number hc, hparse]
    rfl
  | .array [], fuel + 1, depth, rest, _, hd, _, _ => by
    have hne : depth ≠ 0 := by
      simp only [Value.depth] at hd
      omega
    simp [parseValue, Value.render, renderItems, isSpace, hne, Value.normalize, normalizeItems]
  | .array (item :: items), fuel + 1, depth, rest, hp, hd, hf, _ => by
    have hplain : integralItems (item :: items) = true := by simpa [Value.integral] using hp
    have hitems := parseItems_render item items fuel (depth - 1) rest hplain
      (by simp only [Value.depth] at hd; omega)
      (by simp only [Value.render, List.length_append, List.length_cons, List.length_nil] at hf; omega)
    obtain ⟨c, cs, hcs, hspace, hc⟩ := renderItems_head hplain
    have hne : depth ≠ 0 := by
      simp only [Value.depth] at hd
      omega
    have hrender : (Value.array (item :: items)).render ++ rest
        = '[' :: (renderItems (item :: items) ++ ']' :: rest) := by simp [Value.render]
    rw [hrender, parseValue, dropWhile_space (c := '[') rfl]
    rw [hcs, List.cons_append] at hitems ⊢
    simp only [if_neg hne, dropWhile_space hspace]
    split
    · rename_i h
      cases h
      exact absurd rfl hc
    · rw [hitems]
      rfl
  | .object [], fuel + 1, depth, rest, _, hd, _, _ => by
    have hne : depth ≠ 0 := by
      simp only [Value.depth] at hd
      omega
    simp [parseValue, Value.render, renderEntries, isSpace, hne, Value.normalize, normalizeEntries]
  | .object (entry :: entries), fuel + 1, depth, rest, hp, hd, hf, _ => by
    have hentries := parseEntries_render entry entries fuel (depth - 1) rest (by simpa [Value.integral] using hp)
      (by simp only [Value.depth] at hd; omega)
      (by simp only [Value.render, List.length_append, List.length_cons, List.length_nil] at hf; omega)
    obtain ⟨cs, hcs⟩ := renderEntries_head entry entries
    have hne : depth ≠ 0 := by
      simp only [Value.depth] at hd
      omega
    have hrender : (Value.object (entry :: entries)).render ++ rest
        = '{' :: (renderEntries (entry :: entries) ++ '}' :: rest) := by simp [Value.render]
    rw [hrender, parseValue, dropWhile_space (c := '{') rfl]
    rw [hcs, List.cons_append] at hentries ⊢
    simp only [if_neg hne, dropWhile_space (c := '"') rfl]
    show Option.map _ (parseEntries fuel (depth - 1) _) = _
    rw [hentries]
    rfl

theorem parseItems_render : ∀ (item : Value) (items : List Value) (fuel depth : Nat) (rest : List Char),
    integralItems (item :: items) = true → depthItems (item :: items) ≤ depth →
    (renderItems (item :: items)).length < fuel →
    parseItems fuel depth (renderItems (item :: items) ++ ']' :: rest) = some (normalizeItems (item :: items), rest)
  | item, items, 0, _, _, _, _, hf => absurd hf (Nat.not_lt_zero _)
  | item, [], fuel + 1, depth, rest, hp, hd, hf => by
    simp only [integralItems, Bool.and_true, depthItems, Nat.max_zero, renderItems] at hp hd hf
    have hitem := parseValue_render item fuel depth (']' :: rest) hp hd (by omega) (stops_cons rest (by simp))
    rw [renderItems, parseItems, hitem]
    simp [isSpace, normalizeItems]
  | item, next :: items, fuel + 1, depth, rest, hp, hd, hf => by
    rw [integralItems, Bool.and_eq_true] at hp
    rw [depthItems] at hd
    have hrender : renderItems (item :: next :: items) = item.render ++ ',' :: renderItems (next :: items) := by
      simp [renderItems]
    rw [hrender, List.length_append, List.length_cons] at hf
    have hitem := parseValue_render item fuel depth (',' :: (renderItems (next :: items) ++ ']' :: rest)) hp.1
      (by omega) (by omega) (stops_cons _ (by simp))
    have hitems := parseItems_render next items fuel depth rest hp.2 (by omega) (by omega)
    rw [hrender, List.append_assoc, List.cons_append, parseItems, hitem]
    simp [isSpace, hitems, normalizeItems]

theorem parseEntries_render : ∀ (entry : String × Value) (entries : List (String × Value)) (fuel depth : Nat)
    (rest : List Char), integralEntries (entry :: entries) = true → depthEntries (entry :: entries) ≤ depth →
    (renderEntries (entry :: entries)).length < fuel →
    parseEntries fuel depth (renderEntries (entry :: entries) ++ '}' :: rest) =
    some (normalizeEntries (entry :: entries), rest)
  | _, _, 0, _, _, _, _, hf => absurd hf (Nat.not_lt_zero _)
  | (key, value), [], fuel + 1, depth, rest, hp, hd, hf => by
    simp only [integralEntries, integralEntry, Bool.and_true, depthEntries, depthEntry, Nat.max_zero,
      renderEntries, renderEntry, List.length_append, List.length_cons] at hp hd hf
    have hvalue := parseValue_render value fuel depth ('}' :: rest) hp hd (by omega) (stops_cons rest (by simp))
    have hkey := parseString_renderString key (':' :: (value.render ++ '}' :: rest))
    have hrender : renderEntries [(key, value)] ++ '}' :: rest
        = '"' :: (key.toList.flatMap escapeChar ++ ['"'] ++ ':' :: (value.render ++ '}' :: rest)) := by
      simp [renderEntries, renderEntry, renderString]
    rw [hrender, parseEntries, dropWhile_space (c := '"') rfl]
    simp only [hkey, Option.bind_eq_bind, Option.bind_some, dropWhile_space (c := ':') rfl, hvalue,
      dropWhile_space (c := '}') rfl, String.ofList_toList, normalizeEntries, normalizeEntry, insertEntry]
  | (key, value), next :: entries, fuel + 1, depth, rest, hp, hd, hf => by
    rw [integralEntries, Bool.and_eq_true, integralEntry] at hp
    rw [depthEntries, depthEntry] at hd
    have hlength : (renderEntries ((key, value) :: next :: entries)).length
        = (renderString key).length + value.render.length + (renderEntries (next :: entries)).length + 2 := by
      simp [renderEntries, renderEntry]
      omega
    have hvalue := parseValue_render value fuel depth (',' :: (renderEntries (next :: entries) ++ '}' :: rest)) hp.1
      (by omega) (by omega) (stops_cons _ (by simp))
    have hentries := parseEntries_render next entries fuel depth rest hp.2 (by omega) (by omega)
    have hkey := parseString_renderString key
      (':' :: (value.render ++ ',' :: (renderEntries (next :: entries) ++ '}' :: rest)))
    have hrender : renderEntries ((key, value) :: next :: entries) ++ '}' :: rest
        = '"' :: (key.toList.flatMap escapeChar ++ ['"']
          ++ ':' :: (value.render ++ ',' :: (renderEntries (next :: entries) ++ '}' :: rest))) := by
      simp [renderEntries, renderEntry, renderString]
    rw [hrender, parseEntries, dropWhile_space (c := '"') rfl]
    simp only [hkey, Option.bind_eq_bind, Option.bind_some, dropWhile_space (c := ':') rfl, hvalue,
      dropWhile_space (c := ',') rfl, hentries, String.ofList_toList, normalizeEntries, normalizeEntry]

end

/-- Reading gives back what was written, with the entries of objects in the order of their keys. -/
theorem parse_render_integral {limit : Nat} {v : Value} (hp : v.integral = true) (hd : v.depth < limit) :
    parse limit (String.ofList v.render) = some v.normalize := by
  have hstops : Stops [] := by
    intro c cs h
    cases h
  have hparse := parseValue_render v (v.render.length + 1) (limit - 1) [] hp (by omega) (by omega) hstops
  rw [List.append_nil] at hparse
  simp only [parse, String.length_ofList, String.toList_ofList, hparse, List.all_nil, if_true]

mutual

theorem normalize_plain : ∀ v : Value, v.plain = true → v.normalize = v
  | .null, _ => rfl
  | .bool _, _ => rfl
  | .number _, _ => rfl
  | .string _, _ => rfl
  | .array items, h => congrArg Value.array (normalizeItems_plain items h)
  | .object entries, h => congrArg Value.object (normalizeEntries_plain entries h)

theorem normalizeItems_plain : ∀ items : List Value, plainItems items = true → normalizeItems items = items
  | [], _ => rfl
  | item :: items, h => by
    rw [plainItems, Bool.and_eq_true] at h
    rw [normalizeItems, normalize_plain item h.1, normalizeItems_plain items h.2]

theorem normalizeEntries_plain : ∀ entries : List (String × Value), plainEntries entries = true →
    normalizeEntries entries = entries
  | [], _ => rfl
  | [(k, v)], h => by
    have hv : v.plain = true := by simpa [plainEntries, plainEntry] using h
    simp [normalizeEntries, normalizeEntry, insertEntry, normalize_plain v hv]
  | (k, v) :: next :: entries, h => by
    rw [plainEntries, Bool.and_eq_true, Bool.and_eq_true] at h
    have hv : v.plain = true := h.1.1
    rw [normalizeEntries, normalizeEntry, normalizeEntries_plain (next :: entries) h.2, normalize_plain v hv,
      insertEntry_front h.1.2]

end

mutual

theorem integral_of_plain : ∀ v : Value, v.plain = true → v.integral = true
  | .null, _ => rfl
  | .bool _, _ => rfl
  | .string _, _ => rfl
  | .number n, h => by rw [Value.plain] at h; rw [Value.integral, h]
  | .array items, h => by rw [Value.plain] at h; rw [Value.integral, integralItems_of_plain items h]
  | .object entries, h => by rw [Value.plain] at h; rw [Value.integral, integralEntries_of_plain entries h]

theorem integralItems_of_plain : ∀ items : List Value, plainItems items = true → integralItems items = true
  | [], _ => by rw [integralItems]
  | item :: items, h => by
    rw [plainItems, Bool.and_eq_true] at h
    rw [integralItems, integral_of_plain item h.1, integralItems_of_plain items h.2, Bool.and_self]

theorem integralEntries_of_plain : ∀ entries : List (String × Value), plainEntries entries = true →
    integralEntries entries = true
  | [], _ => by rw [integralEntries]
  | [entry], h => by
    rw [plainEntries] at h
    rw [integralEntries, integralEntry_of_plain entry h, integralEntries, Bool.and_self]
  | entry :: next :: entries, h => by
    rw [plainEntries, Bool.and_eq_true, Bool.and_eq_true] at h
    rw [integralEntries, integralEntry_of_plain entry h.1.1, integralEntries_of_plain (next :: entries) h.2,
      Bool.and_self]

theorem integralEntry_of_plain : ∀ entry : String × Value, plainEntry entry = true → integralEntry entry = true
  | (_, value), h => by rw [plainEntry] at h; rw [integralEntry, integral_of_plain value h]

end

theorem parse_render {limit : Nat} {v : Value} (hp : v.plain = true) (hd : v.depth < limit) :
    parse limit (String.ofList v.render) = some v := by
  rw [parse_render_integral (integral_of_plain v hp) hd, normalize_plain v hp]

theorem render_ne_nil {v : Value} (hp : v.plain = true) : v.render ≠ [] := by
  obtain ⟨c, cs, hcs, -⟩ := render_head (integral_of_plain v hp)
  rw [hcs]
  exact List.cons_ne_nil c cs

theorem newline_not_mem_escapeChar (c : Char) : '\n' ∉ escapeChar c := by
  have hhex : ∀ n : Fin 16, '\n' ≠ hexChar n := by decide
  unfold escapeChar
  repeat' split
  all_goals try decide
  · rename_i hctl
    have hhigh := hhex ⟨c.toNat / 16, by omega⟩
    have hlow := hhex ⟨c.toNat % 16, by omega⟩
    simp [hhigh, hlow]
  · rename_i _ _ _ _ hnewline _ _ _
    simpa using fun h => hnewline h.symm

theorem newline_not_mem_renderString (s : String) : '\n' ∉ renderString s := by
  simp [renderString, newline_not_mem_escapeChar]

theorem newline_not_mem_toDigits (n : Nat) : '\n' ∉ Nat.toDigits 10 n := fun h =>
  absurd (toDigits_isDigit _ h) (by decide)

mutual

theorem newline_not_mem_render : ∀ v : Value, v.plain = true → '\n' ∉ v.render
  | .null, _ => by simp [Value.render]
  | .bool true, _ => by simp [Value.render]
  | .bool false, _ => by simp [Value.render]
  | .string s, _ => newline_not_mem_renderString s
  | .number (.posInt n), _ => newline_not_mem_toDigits n
  | .number (.negInt n), _ => by simp [Value.render, renderNumber, newline_not_mem_toDigits n]
  | .number (.float _), h => by simp [Value.plain, Number.plain] at h
  | .array items, h => by
    have hitems := newline_not_mem_renderItems items (by simpa [Value.plain] using h)
    simp [Value.render, hitems]
  | .object entries, h => by
    have hentries := newline_not_mem_renderEntries entries (by simpa [Value.plain] using h)
    simp [Value.render, hentries]

theorem newline_not_mem_renderItems : ∀ items : List Value, plainItems items = true → '\n' ∉ renderItems items
  | [], _ => by simp [renderItems]
  | [item], h => by
    have hitem := newline_not_mem_render item (by simpa [plainItems] using h)
    simpa [renderItems] using hitem
  | item :: next :: items, h => by
    rw [plainItems, Bool.and_eq_true] at h
    have hitem := newline_not_mem_render item h.1
    have hitems := newline_not_mem_renderItems (next :: items) h.2
    simp [renderItems, hitem, hitems]

theorem newline_not_mem_renderEntries : ∀ entries : List (String × Value), plainEntries entries = true →
    '\n' ∉ renderEntries entries
  | [], _ => by simp [renderEntries]
  | [entry], h => by
    have hentry := newline_not_mem_renderEntry entry (by simpa [plainEntries] using h)
    simpa [renderEntries] using hentry
  | entry :: next :: entries, h => by
    rw [plainEntries, Bool.and_eq_true, Bool.and_eq_true] at h
    have hentry := newline_not_mem_renderEntry entry h.1.1
    have hentries := newline_not_mem_renderEntries (next :: entries) h.2
    simp [renderEntries, hentry, hentries]

theorem newline_not_mem_renderEntry : ∀ entry : String × Value, plainEntry entry = true → '\n' ∉ renderEntry entry
  | (key, value), h => by
    have hvalue := newline_not_mem_render value h
    simp [renderEntry, newline_not_mem_renderString, hvalue]

end

/-! ## Values that are too deep -/

mutual

/-- A value that is nested deeper than allowed is not read. -/
theorem parseValue_deep : ∀ (v : Value) (fuel depth : Nat) (rest : List Char), v.plain = true → depth < v.depth →
    v.render.length ≤ fuel → parseValue fuel depth (v.render ++ rest) = none
  | v, 0, _, _, _, _, _ => rfl
  | .null, _ + 1, _, _, _, hd, _ => absurd hd (Nat.not_lt_zero _)
  | .bool _, _ + 1, _, _, _, hd, _ => absurd hd (Nat.not_lt_zero _)
  | .number _, _ + 1, _, _, _, hd, _ => absurd hd (Nat.not_lt_zero _)
  | .string _, _ + 1, _, _, _, hd, _ => absurd hd (Nat.not_lt_zero _)
  | .array [], fuel + 1, depth, rest, _, hd, _ => by
    have hzero : depth = 0 := by
      simp only [Value.depth, depthItems] at hd
      omega
    simp [parseValue, Value.render, isSpace, hzero]
  | .array (item :: items), fuel + 1, depth, rest, hp, hd, hf => by
    have hrender : (Value.array (item :: items)).render ++ rest
        = '[' :: (renderItems (item :: items) ++ ']' :: rest) := by simp [Value.render]
    rw [hrender, parseValue, dropWhile_space (c := '[') rfl]
    by_cases hzero : depth = 0
    · simp only [if_pos hzero]
    · have hplain : plainItems (item :: items) = true := by simpa [Value.plain] using hp
      have hitems := parseItems_deep item items fuel (depth - 1) rest hplain
        (by simp only [Value.depth] at hd; omega)
        (by simp only [Value.render, List.length_append, List.length_cons, List.length_nil] at hf; omega)
      obtain ⟨c, cs, hcs, hspace, hc⟩ := renderItems_head (integralItems_of_plain _ hplain)
      rw [hcs, List.cons_append] at hitems ⊢
      simp only [if_neg hzero, dropWhile_space hspace]
      split
      · rename_i h
        cases h
        exact absurd rfl hc
      · rw [hitems]
        rfl
  | .object [], fuel + 1, depth, rest, _, hd, _ => by
    have hzero : depth = 0 := by
      simp only [Value.depth, depthEntries] at hd
      omega
    simp [parseValue, Value.render, isSpace, hzero]
  | .object (entry :: entries), fuel + 1, depth, rest, hp, hd, hf => by
    have hrender : (Value.object (entry :: entries)).render ++ rest
        = '{' :: (renderEntries (entry :: entries) ++ '}' :: rest) := by simp [Value.render]
    rw [hrender, parseValue, dropWhile_space (c := '{') rfl]
    by_cases hzero : depth = 0
    · simp only [if_pos hzero]
    · have hentries := parseEntries_deep entry entries fuel (depth - 1) rest (by simpa [Value.plain] using hp)
        (by simp only [Value.depth] at hd; omega)
        (by simp only [Value.render, List.length_append, List.length_cons, List.length_nil] at hf; omega)
      obtain ⟨cs, hcs⟩ := renderEntries_head entry entries
      rw [hcs, List.cons_append] at hentries ⊢
      simp only [if_neg hzero, dropWhile_space (c := '"') rfl]
      show Option.map _ (parseEntries fuel (depth - 1) _) = _
      rw [hentries]
      rfl

theorem parseItems_deep : ∀ (item : Value) (items : List Value) (fuel depth : Nat) (rest : List Char),
    plainItems (item :: items) = true → depth < depthItems (item :: items) →
    (renderItems (item :: items)).length < fuel →
    parseItems fuel depth (renderItems (item :: items) ++ ']' :: rest) = none
  | item, items, 0, _, _, _, _, hf => absurd hf (Nat.not_lt_zero _)
  | item, [], fuel + 1, depth, rest, hp, hd, hf => by
    simp only [plainItems, Bool.and_true, depthItems, Nat.max_zero, renderItems] at hp hd hf
    have hitem := parseValue_deep item fuel depth (']' :: rest) hp hd (by omega)
    rw [renderItems, parseItems, hitem]
    rfl
  | item, next :: items, fuel + 1, depth, rest, hp, hd, hf => by
    rw [plainItems, Bool.and_eq_true] at hp
    rw [depthItems] at hd
    have hrender : renderItems (item :: next :: items) = item.render ++ ',' :: renderItems (next :: items) := by
      simp [renderItems]
    rw [hrender, List.length_append, List.length_cons] at hf
    rw [hrender, List.append_assoc, List.cons_append, parseItems]
    by_cases hdeep : depth < item.depth
    · rw [parseValue_deep item fuel depth _ hp.1 hdeep (by omega)]
      rfl
    · -- the first item is read, a later one is too deep
      have hitem := parseValue_render item fuel depth (',' :: (renderItems (next :: items) ++ ']' :: rest))
        (integral_of_plain item hp.1) (by omega) (by omega) (stops_cons _ (by simp))
      have hitems := parseItems_deep next items fuel depth rest hp.2 (by omega) (by omega)
      rw [hitem]
      simp [isSpace, hitems]

theorem parseEntries_deep : ∀ (entry : String × Value) (entries : List (String × Value)) (fuel depth : Nat)
    (rest : List Char), plainEntries (entry :: entries) = true → depth < depthEntries (entry :: entries) →
    (renderEntries (entry :: entries)).length < fuel →
    parseEntries fuel depth (renderEntries (entry :: entries) ++ '}' :: rest) = none
  | _, _, 0, _, _, _, _, hf => absurd hf (Nat.not_lt_zero _)
  | (key, value), [], fuel + 1, depth, rest, hp, hd, hf => by
    simp only [plainEntries, plainEntry, depthEntries, depthEntry, Nat.max_zero, renderEntries, renderEntry,
      List.length_append, List.length_cons] at hp hd hf
    have hvalue := parseValue_deep value fuel depth ('}' :: rest) hp hd (by omega)
    have hkey := parseString_renderString key (':' :: (value.render ++ '}' :: rest))
    have hrender : renderEntries [(key, value)] ++ '}' :: rest
        = '"' :: (key.toList.flatMap escapeChar ++ ['"'] ++ ':' :: (value.render ++ '}' :: rest)) := by
      simp [renderEntries, renderEntry, renderString]
    rw [hrender, parseEntries, dropWhile_space (c := '"') rfl]
    simp only [hkey, Option.bind_eq_bind, Option.bind_some, dropWhile_space (c := ':') rfl, hvalue, Option.bind_none]
  | (key, value), next :: entries, fuel + 1, depth, rest, hp, hd, hf => by
    rw [plainEntries, Bool.and_eq_true, Bool.and_eq_true, plainEntry] at hp
    rw [depthEntries, depthEntry] at hd
    have hlength : (renderEntries ((key, value) :: next :: entries)).length
        = (renderString key).length + value.render.length + (renderEntries (next :: entries)).length + 2 := by
      simp [renderEntries, renderEntry]
      omega
    have hkey := parseString_renderString key
      (':' :: (value.render ++ ',' :: (renderEntries (next :: entries) ++ '}' :: rest)))
    have hrender : renderEntries ((key, value) :: next :: entries) ++ '}' :: rest
        = '"' :: (key.toList.flatMap escapeChar ++ ['"']
          ++ ':' :: (value.render ++ ',' :: (renderEntries (next :: entries) ++ '}' :: rest))) := by
      simp [renderEntries, renderEntry, renderString]
    rw [hrender, parseEntries, dropWhile_space (c := '"') rfl]
    simp only [hkey, Option.bind_eq_bind, Option.bind_some, dropWhile_space (c := ':') rfl]
    by_cases hdeep : depth < value.depth
    · rw [parseValue_deep value fuel depth _ hp.1.1 hdeep (by omega)]
      rfl
    · have hvalue := parseValue_render value fuel depth (',' :: (renderEntries (next :: entries) ++ '}' :: rest))
        (integral_of_plain value hp.1.1) (by omega) (by omega) (stops_cons _ (by simp))
      have hentries := parseEntries_deep next entries fuel depth rest hp.2 (by omega) (by omega)
      simp only [hvalue, Option.bind_some, dropWhile_space (c := ',') rfl, hentries, Option.bind_none]

end

theorem parse_deep {limit : Nat} {v : Value} (hp : v.plain = true) (hl : 0 < limit) (hd : limit ≤ v.depth) :
    parse limit (String.ofList v.render) = none := by
  have hparse := parseValue_deep v (v.render.length + 1) (limit - 1) [] hp (by omega) (by omega)
  rw [List.append_nil] at hparse
  simp only [parse, String.length_ofList, String.toList_ofList, hparse]

/-! ## Size -/

mutual

/-- Each level of nesting is written with two brackets. -/
theorem depth_le_render : ∀ v : Value, 2 * v.depth ≤ v.render.length
  | .null => by simp [Value.depth]
  | .bool _ => by simp [Value.depth]
  | .string _ => by simp [Value.depth]
  | .number _ => by simp [Value.depth]
  | .array items => by
    have ih := depth_le_renderItems items
    simp only [Value.depth, Value.render, List.length_cons, List.length_append, List.length_nil]
    omega
  | .object entries => by
    have ih := depth_le_renderEntries entries
    simp only [Value.depth, Value.render, List.length_cons, List.length_append, List.length_nil]
    omega

theorem depth_le_renderItems : ∀ items : List Value, 2 * depthItems items ≤ (renderItems items).length
  | [] => by simp [depthItems]
  | [item] => by
    have ih := depth_le_render item
    simp only [depthItems, renderItems, Nat.max_zero]
    exact ih
  | item :: next :: items => by
    have ih := depth_le_render item
    have ihs := depth_le_renderItems (next :: items)
    rw [depthItems, renderItems, List.length_append, List.length_cons]
    · omega
    · simp

theorem depth_le_renderEntries : ∀ entries : List (String × Value), 2 * depthEntries entries ≤
    (renderEntries entries).length
  | [] => by simp [depthEntries]
  | [entry] => by
    have ih := depth_le_renderEntry entry
    simp only [depthEntries, renderEntries, Nat.max_zero]
    exact ih
  | entry :: next :: entries => by
    have ih := depth_le_renderEntry entry
    have ihs := depth_le_renderEntries (next :: entries)
    rw [depthEntries, renderEntries, List.length_append, List.length_cons]
    · omega
    · simp

theorem depth_le_renderEntry : ∀ entry : String × Value, 2 * depthEntry entry ≤ (renderEntry entry).length
  | (key, value) => by
    have ih := depth_le_render value
    simp only [depthEntry, renderEntry, List.length_append, List.length_cons]
    omega

end

/-- The bytes of a text in UTF-8. -/
def bytes (cs : List Char) : Nat := (cs.map Char.utf8Size).sum

theorem bytes_append (cs ds : List Char) : bytes (cs ++ ds) = bytes cs + bytes ds := by
  simp [bytes]

theorem bytes_cons (c : Char) (cs : List Char) : bytes (c :: cs) = c.utf8Size + bytes cs := by
  simp [bytes]

/-- No character needs a numeric escape. -/
def printable (s : String) : Bool := s.toList.all fun c => 0x20 ≤ c.toNat

theorem bytes_escapeChar {c : Char} (h : 0x20 ≤ c.toNat) : bytes (escapeChar c) ≤ 4 := by
  have hsize := c.utf8Size_le_four
  unfold escapeChar
  repeat' split
  all_goals try decide
  · omega
  · simpa [bytes] using hsize

theorem bytes_renderString {s : String} (h : printable s = true) : bytes (renderString s) ≤ 4 * s.length + 2 := by
  have hchars : ∀ cs : List Char, (∀ c ∈ cs, 0x20 ≤ c.toNat) → bytes (cs.flatMap escapeChar) ≤ 4 * cs.length := by
    intro cs hcs
    induction cs with
    | nil => exact Nat.le_refl _
    | cons c cs ih =>
      have hc := bytes_escapeChar (hcs c List.mem_cons_self)
      have hrest := ih fun c' h' => hcs c' (List.mem_cons_of_mem _ h')
      rw [List.flatMap_cons, bytes_append, List.length_cons]
      omega
  have hquote : bytes ['"'] = 1 := by decide
  have hbody := hchars s.toList fun c hc => by simpa using List.all_eq_true.mp h c hc
  rw [String.length_toList] at hbody
  rw [renderString, List.cons_append, bytes_cons, bytes_append, hquote, show ('"').utf8Size = 1 by decide]
  omega

/-- The bytes of a text between its quotes. -/
def textBytes (s : String) : Nat := bytes (s.toList.flatMap escapeChar)

theorem bytes_renderString_eq (s : String) : bytes (renderString s) = textBytes s + 2 := by
  have hquote : bytes ['"'] = 1 := by decide
  rw [renderString, List.cons_append, bytes_cons, bytes_append, hquote, show ('"').utf8Size = 1 by decide, textBytes]
  omega

theorem textBytes_append (s t : String) : textBytes (s ++ t) = textBytes s + textBytes t := by
  rw [textBytes, String.toList_append, List.flatMap_append, bytes_append]
  rfl

/-- A text without escapes is written as it is. -/
theorem textBytes_plain {s : String} (h : ∀ c ∈ s.toList, escapeChar c = [c] ∧ c.utf8Size = 1) :
    textBytes s = s.length := by
  have hchars : ∀ cs : List Char, (∀ c ∈ cs, escapeChar c = [c] ∧ c.utf8Size = 1) →
      bytes (cs.flatMap escapeChar) = cs.length := by
    intro cs hcs
    induction cs with
    | nil => rfl
    | cons c cs ih =>
      obtain ⟨hescape, hsize⟩ := hcs c List.mem_cons_self
      rw [List.flatMap_cons, hescape, bytes_append, ih fun c' h' => hcs c' (List.mem_cons_of_mem _ h'),
        List.length_cons]
      simp [bytes, hsize, Nat.add_comm]
  rw [textBytes, hchars _ h, String.length_toList]

theorem bytes_renderString_plain {s : String} (h : ∀ c ∈ s.toList, escapeChar c = [c] ∧ c.utf8Size = 1) :
    bytes (renderString s) = s.length + 2 := by
  rw [bytes_renderString_eq, textBytes_plain h]

/-- An entry with its colon and a comma. -/
def entryBytes (entry : String × Value) : Nat := bytes (renderString entry.1) + bytes entry.2.render + 2

theorem bytes_renderEntries : ∀ (entry : String × Value) (entries : List (String × Value)),
    bytes (renderEntries (entry :: entries)) + 1 = ((entry :: entries).map entryBytes).sum
  | (key, value), [] => by
    have hcolon : (':').utf8Size = 1 := by decide
    simp only [renderEntries, renderEntry, bytes_append, bytes_cons, hcolon, List.map_cons, List.map_nil, List.sum_cons,
      List.sum_nil, entryBytes]
    omega
  | (key, value), next :: entries => by
    have ih := bytes_renderEntries next entries
    have hcolon : (':').utf8Size = 1 := by decide
    have hcomma : (',').utf8Size = 1 := by decide
    have hrender : renderEntries ((key, value) :: next :: entries)
        = renderString key ++ ':' :: value.render ++ ',' :: renderEntries (next :: entries) := by
      simp [renderEntries, renderEntry]
    rw [hrender, List.map_cons, List.sum_cons, ← ih, entryBytes]
    simp only [bytes_append, bytes_cons, hcolon, hcomma]
    omega

/-- The braces take two bytes, and there is one comma less than entries. -/
theorem bytes_object_eq (entry : String × Value) (entries : List (String × Value)) :
    bytes (Value.object (entry :: entries)).render = ((entry :: entries).map entryBytes).sum + 1 := by
  have hentries := bytes_renderEntries entry entries
  have hbrace : bytes ['}'] = 1 := by decide
  have hopen : ('{').utf8Size = 1 := by decide
  simp only [Value.render, List.cons_append, bytes_append, bytes_cons, hbrace, hopen]
  omega

theorem bytes_object (entries : List (String × Value)) :
    bytes (Value.object entries).render ≤ (entries.map entryBytes).sum + 2 := by
  cases entries with
  | nil => decide
  | cons entry entries =>
    rw [bytes_object_eq]
    omega

/-- A short key without escapes. -/
def shortKey (key : String) : Bool := printable key && key.length ≤ 16

theorem entryBytes_le {key : String} {value : Value} {n : Nat} (hkey : shortKey key = true)
    (hvalue : bytes value.render ≤ n) : entryBytes (key, value) ≤ n + 68 := by
  rw [shortKey, Bool.and_eq_true, decide_eq_true_eq] at hkey
  have hbytes := bytes_renderString hkey.1
  have hlength := hkey.2
  simp only [entryBytes]
  omega

theorem bytes_string {s : String} {n : Nat} (hs : printable s = true) (hn : s.length ≤ n) :
    bytes (Value.string s).render ≤ 4 * n + 2 := by
  have hbytes := bytes_renderString hs
  simp only [Value.render]
  omega

theorem bytes_bool (b : Bool) : bytes (Value.bool b).render ≤ 5 := by
  cases b <;> decide

theorem bytes_le_length (cs : List Char) : bytes cs ≤ 4 * cs.length := by
  induction cs with
  | nil => exact Nat.le_refl _
  | cons c cs ih =>
    have := c.utf8Size_le_four
    rw [bytes_cons, List.length_cons]
    omega

theorem bytes_nat {n : Nat} (hn : n < 2 ^ 64) : bytes (Value.number (.posInt n)).render ≤ 80 := by
  have hdigits : (Nat.toDigits 10 n).length ≤ 20 :=
    (Nat.length_toDigits_le_iff (by decide) (by decide)).mpr (Nat.lt_trans hn (by decide))
  have hbytes := bytes_le_length (Nat.toDigits 10 n)
  simp only [Value.render, renderNumber]
  omega

end Json

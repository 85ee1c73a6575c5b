import Mathlib.Logic.Basic

/-!
# Base64

Three bytes as four characters, in the url alphabet without padding. Reading is strict: unused bits are zero.

- `decode_encode`, `encode_of_decode`: bytes have one text, and it is read back;
- `encodeStandard`, `decodeStandard`: the standard alphabet, padded to a multiple of four.
-/

namespace Base64

def sextet (n : Nat) : Char :=
  if n < 26 then Char.ofNat (65 + n)
  else if n < 52 then Char.ofNat (97 + (n - 26))
  else if n < 62 then Char.ofNat (48 + (n - 52))
  else if n = 62 then '-'
  else '_'

def value (c : Char) : Option Nat :=
  if 'A' ≤ c ∧ c ≤ 'Z' then some (c.toNat - 65)
  else if 'a' ≤ c ∧ c ≤ 'z' then some (c.toNat - 97 + 26)
  else if '0' ≤ c ∧ c ≤ '9' then some (c.toNat - 48 + 52)
  else if c = '-' then some 62
  else if c = '_' then some 63
  else none

def encode : List UInt8 → List Char
  | [] => []
  | [a] => [sextet (a.toNat / 4), sextet (a.toNat % 4 * 16)]
  | [a, b] => [sextet (a.toNat / 4), sextet (a.toNat % 4 * 16 + b.toNat / 16), sextet (b.toNat % 16 * 4)]
  | a :: b :: c :: rest =>
    sextet (a.toNat / 4) :: sextet (a.toNat % 4 * 16 + b.toNat / 16) :: sextet (b.toNat % 16 * 4 + c.toNat / 64) ::
      sextet (c.toNat % 64) :: encode rest

def decode : List Char → Option (List UInt8)
  | [] => some []
  | [_] => none
  | [w, x] => do
    let w ← value w
    let x ← value x
    if x % 16 = 0 then some [UInt8.ofNat (w * 4 + x / 16)] else none
  | [w, x, y] => do
    let w ← value w
    let x ← value x
    let y ← value y
    if y % 4 = 0 then some [UInt8.ofNat (w * 4 + x / 16), UInt8.ofNat (x % 16 * 16 + y / 4)] else none
  | w :: x :: y :: z :: rest => do
    let w ← value w
    let x ← value x
    let y ← value y
    let z ← value z
    let bytes ← decode rest
    some (UInt8.ofNat (w * 4 + x / 16) :: UInt8.ofNat (x % 16 * 16 + y / 4) :: UInt8.ofNat (y % 4 * 64 + z) :: bytes)

theorem value_sextet_fin : ∀ n : Fin 64, value (sextet n) = some n := by decide

theorem value_sextet {n : Nat} (h : n < 64) : value (sextet n) = some n := value_sextet_fin ⟨n, h⟩

theorem byte_eq {n : Nat} {a : UInt8} (h : n = a.toNat) : UInt8.ofNat n = a := by
  rw [h, UInt8.ofNat_toNat]

theorem decode_encode (bytes : List UInt8) : decode (encode bytes) = some bytes := by
  induction bytes using encode.induct with
  | case1 => rfl
  | case2 a =>
    have ha := a.toNat_lt
    rw [encode, decode, value_sextet (by omega), value_sextet (by omega)]
    simp only [Option.bind_eq_bind, Option.bind_some]
    rw [if_pos (by omega), byte_eq (a := a) (by omega)]
  | case3 a b =>
    have ha := a.toNat_lt
    have hb := b.toNat_lt
    rw [encode, decode, value_sextet (by omega), value_sextet (by omega), value_sextet (by omega)]
    simp only [Option.bind_eq_bind, Option.bind_some]
    rw [if_pos (by omega), byte_eq (a := a) (by omega), byte_eq (a := b) (by omega)]
  | case4 a b c rest ih =>
    have ha := a.toNat_lt
    have hb := b.toNat_lt
    have hc := c.toNat_lt
    rw [encode, decode, value_sextet (by omega), value_sextet (by omega), value_sextet (by omega),
      value_sextet (by omega), ih]
    simp only [Option.bind_eq_bind, Option.bind_some]
    rw [byte_eq (a := a) (by omega), byte_eq (a := b) (by omega), byte_eq (a := c) (by omega)]

theorem sextet_value_ascii : ∀ k : Fin 128, ∀ n ∈ value (Char.ofNat k), n < 64 ∧ sextet n = Char.ofNat k := by decide

theorem sextet_value {c : Char} {n : Nat} (h : value c = some n) : n < 64 ∧ sextet n = c := by
  have hc : c.toNat < 128 := by
    apply Classical.byContradiction
    intro hge
    have hlarge : ∀ d : Char, d.toNat < 128 → ¬ c ≤ d := by
      intro d hd hle
      have hle' : c.toNat ≤ d.toNat := UInt32.le_iff_toNat_le.mp hle
      omega
    have hne : ∀ d : Char, d.toNat < 128 → c ≠ d := by
      rintro d hd rfl
      omega
    simp [value, hlarge 'Z' (by decide), hlarge 'z' (by decide), hlarge '9' (by decide), hne '-' (by decide),
      hne '_' (by decide)] at h
  have hall := sextet_value_ascii ⟨c.toNat, hc⟩ n (by simpa [Char.ofNat_toNat] using h)
  simpa [Char.ofNat_toNat] using hall

/-- Every text of bytes is their encoding. -/
theorem encode_of_decode : ∀ {text : List Char} {bytes : List UInt8}, decode text = some bytes → encode bytes = text
  | [], bytes, h => by
    cases h
    rfl
  | [_], bytes, h => by cases h
  | [w, x], bytes, h => by
    simp only [decode, Option.bind_eq_bind, Option.bind_eq_some_iff] at h
    obtain ⟨w', hw, x', hx, h⟩ := h
    obtain ⟨hwlt, rfl⟩ := sextet_value hw
    obtain ⟨hxlt, rfl⟩ := sextet_value hx
    split at h
    · cases h
      have hbyte : (UInt8.ofNat (w' * 4 + x' / 16)).toNat = w' * 4 + x' / 16 :=
        UInt8.toNat_ofNat_of_lt' (by change _ < 256; omega)
      rw [encode, hbyte, show (w' * 4 + x' / 16) / 4 = w' by omega, show (w' * 4 + x' / 16) % 4 * 16 = x' by omega]
    · cases h
  | [w, x, y], bytes, h => by
    simp only [decode, Option.bind_eq_bind, Option.bind_eq_some_iff] at h
    obtain ⟨w', hw, x', hx, y', hy, h⟩ := h
    obtain ⟨hwlt, rfl⟩ := sextet_value hw
    obtain ⟨hxlt, rfl⟩ := sextet_value hx
    obtain ⟨hylt, rfl⟩ := sextet_value hy
    split at h
    · cases h
      have ha : (UInt8.ofNat (w' * 4 + x' / 16)).toNat = w' * 4 + x' / 16 :=
        UInt8.toNat_ofNat_of_lt' (by change _ < 256; omega)
      have hb : (UInt8.ofNat (x' % 16 * 16 + y' / 4)).toNat = x' % 16 * 16 + y' / 4 :=
        UInt8.toNat_ofNat_of_lt' (by change _ < 256; omega)
      rw [encode, ha, hb, show (w' * 4 + x' / 16) / 4 = w' by omega,
        show (w' * 4 + x' / 16) % 4 * 16 + (x' % 16 * 16 + y' / 4) / 16 = x' by omega,
        show (x' % 16 * 16 + y' / 4) % 16 * 4 = y' by omega]
    · cases h
  | w :: x :: y :: z :: rest, bytes, h => by
    simp only [decode, Option.bind_eq_bind, Option.bind_eq_some_iff] at h
    obtain ⟨w', hw, x', hx, y', hy, z', hz, tail, htail, h⟩ := h
    obtain ⟨hwlt, rfl⟩ := sextet_value hw
    obtain ⟨hxlt, rfl⟩ := sextet_value hx
    obtain ⟨hylt, rfl⟩ := sextet_value hy
    obtain ⟨hzlt, rfl⟩ := sextet_value hz
    cases h
    have ih := encode_of_decode htail
    have ha : (UInt8.ofNat (w' * 4 + x' / 16)).toNat = w' * 4 + x' / 16 :=
      UInt8.toNat_ofNat_of_lt' (by change _ < 256; omega)
    have hb : (UInt8.ofNat (x' % 16 * 16 + y' / 4)).toNat = x' % 16 * 16 + y' / 4 :=
      UInt8.toNat_ofNat_of_lt' (by change _ < 256; omega)
    have hc : (UInt8.ofNat (y' % 4 * 64 + z')).toNat = y' % 4 * 64 + z' :=
      UInt8.toNat_ofNat_of_lt' (by change _ < 256; omega)
    rw [encode, ha, hb, hc, ih, show (w' * 4 + x' / 16) / 4 = w' by omega,
      show (w' * 4 + x' / 16) % 4 * 16 + (x' % 16 * 16 + y' / 4) / 16 = x' by omega,
      show (x' % 16 * 16 + y' / 4) % 16 * 4 + (y' % 4 * 64 + z') / 64 = y' by omega,
      show (y' % 4 * 64 + z') % 64 = z' by omega]

theorem length_encode (bytes : List UInt8) : (encode bytes).length = (4 * bytes.length + 2) / 3 := by
  induction bytes using encode.induct with
  | case1 => rfl
  | case2 a => simp [encode]
  | case3 a b => simp [encode]
  | case4 a b c rest ih =>
    simp only [encode, List.length_cons, ih]
    omega

theorem encode_chars (bytes : List UInt8) : ∀ c ∈ encode bytes, ∃ n : Fin 64, c = sextet n := by
  induction bytes using encode.induct with
  | case1 => simp [encode]
  | case2 a =>
    have ha := a.toNat_lt
    intro c hc
    rw [encode, List.mem_cons, List.mem_singleton] at hc
    rcases hc with rfl | rfl
    · exact ⟨⟨a.toNat / 4, by omega⟩, rfl⟩
    · exact ⟨⟨a.toNat % 4 * 16, by omega⟩, rfl⟩
  | case3 a b =>
    have ha := a.toNat_lt
    have hb := b.toNat_lt
    intro c hc
    rw [encode, List.mem_cons, List.mem_cons, List.mem_singleton] at hc
    rcases hc with rfl | rfl | rfl
    · exact ⟨⟨a.toNat / 4, by omega⟩, rfl⟩
    · exact ⟨⟨a.toNat % 4 * 16 + b.toNat / 16, by omega⟩, rfl⟩
    · exact ⟨⟨b.toNat % 16 * 4, by omega⟩, rfl⟩
  | case4 a b c rest ih =>
    have ha := a.toNat_lt
    have hb := b.toNat_lt
    have hc := c.toNat_lt
    intro d hd
    rw [encode, List.mem_cons, List.mem_cons, List.mem_cons, List.mem_cons] at hd
    rcases hd with rfl | rfl | rfl | rfl | hd
    · exact ⟨⟨a.toNat / 4, by omega⟩, rfl⟩
    · exact ⟨⟨a.toNat % 4 * 16 + b.toNat / 16, by omega⟩, rfl⟩
    · exact ⟨⟨b.toNat % 16 * 4 + c.toNat / 64, by omega⟩, rfl⟩
    · exact ⟨⟨c.toNat % 64, by omega⟩, rfl⟩
    · exact ih d hd

/-! ## The standard alphabet -/

def toStandard (c : Char) : Char := if c = '-' then '+' else if c = '_' then '/' else c

def ofStandard (c : Char) : Option Char :=
  if c = '+' then some '-' else if c = '/' then some '_' else if c = '-' ∨ c = '_' then none else some c

/-- The padding of a text of this length. -/
def padding (length : Nat) : List Char := List.replicate ((4 - length % 4) % 4) '='

def encodeStandard (bytes : List UInt8) : List Char := (encode bytes).map toStandard ++ padding (encode bytes).length

/-- Padding is required, and at most two characters. -/
def decodeStandard (text : List Char) : Option (List UInt8) :=
  let body := text.takeWhile (· ≠ '=')
  let rest := text.dropWhile (· ≠ '=')
  if text.length % 4 = 0 ∧ rest.length ≤ 2 ∧ rest.all (· = '=') = true then (body.mapM ofStandard).bind decode else none

theorem ofStandard_sextet : ∀ n : Fin 64, ofStandard (toStandard (sextet n)) = some (sextet n) ∧
    toStandard (sextet n) ≠ '=' := by
  decide

theorem mapM_ofStandard : ∀ {text : List Char}, (∀ c ∈ text, ∃ n : Fin 64, c = sextet n) →
    (text.map toStandard).mapM ofStandard = some text
  | [], _ => rfl
  | c :: text, h => by
    obtain ⟨n, hn⟩ := h c List.mem_cons_self
    rw [List.map_cons, List.mapM_cons, mapM_ofStandard fun c' hc' => h c' (List.mem_cons_of_mem _ hc'), hn,
      (ofStandard_sextet n).1]
    rfl

theorem toStandard_ne (bytes : List UInt8) : ∀ c ∈ (encode bytes).map toStandard, c ≠ '=' := by
  intro c hc
  obtain ⟨d, hd, rfl⟩ := List.mem_map.mp hc
  obtain ⟨n, rfl⟩ := encode_chars bytes d hd
  exact (ofStandard_sextet n).2

theorem length_encodeStandard (bytes : List UInt8) : (encodeStandard bytes).length = 4 * ((bytes.length + 2) / 3) := by
  rw [encodeStandard, List.length_append, List.length_map, padding, List.length_replicate, length_encode]
  omega

theorem decodeStandard_encodeStandard (bytes : List UInt8) : decodeStandard (encodeStandard bytes) = some bytes := by
  have hlength := length_encodeStandard bytes
  have hpad : (padding (encode bytes).length).length ≤ 2 := by
    rw [padding, List.length_replicate, length_encode]
    omega
  have hbody : (encodeStandard bytes).takeWhile (· ≠ '=') = (encode bytes).map toStandard := by
    rw [encodeStandard, List.takeWhile_append_of_pos fun c hc => by simpa using toStandard_ne bytes c hc, padding]
    simp
  have hrest : (encodeStandard bytes).dropWhile (· ≠ '=') = padding (encode bytes).length := by
    rw [encodeStandard, List.dropWhile_append_of_pos fun c hc => by simpa using toStandard_ne bytes c hc, padding]
    simp
  have hall : (padding (encode bytes).length).all (· = '=') = true := by simp [padding]
  unfold decodeStandard
  rw [hbody, hrest, if_pos ⟨by omega, hpad, hall⟩, mapM_ofStandard (encode_chars bytes), Option.bind_some,
    decode_encode]

/-- The characters of the text are those of the alphabet and the padding. -/
theorem encodeStandard_chars (bytes : List UInt8) : ∀ c ∈ encodeStandard bytes,
    (∃ n : Fin 64, c = toStandard (sextet n)) ∨ c = '=' := by
  intro c hc
  rcases List.mem_append.mp hc with hc | hc
  · obtain ⟨d, hd, rfl⟩ := List.mem_map.mp hc
    obtain ⟨n, rfl⟩ := encode_chars bytes d hd
    exact Or.inl ⟨n, rfl⟩
  · exact Or.inr (List.eq_of_mem_replicate hc)

end Base64

import Vectis.Lib.Scan

/-!
# Texts of network addresses

The parsers of the Rust standard library for IP and socket addresses: `str::parse::<IpAddr>` and
`str::parse::<SocketAddr>`.

- `isSocketAddr_iff`: a socket address is an IPv4 address, or an IPv6 address with an optional scope id in brackets,
  then a colon and a port (`whole_number_iff`);
- `isIpAddr_iff`: an IP address is an IPv4 or an IPv6 address; an IPv6 address has a colon (`colon_mem_ipv6`).
-/

namespace Net

open Scan

/-! ## Numbers -/

/-- The value of a hex digit, 16 for every other character. -/
def digitValue (c : Char) : Nat :=
  if '0' ≤ c ∧ c ≤ '9' then c.toNat - 48
  else if 'a' ≤ c ∧ c ≤ 'f' then c.toNat - 87
  else if 'A' ≤ c ∧ c ≤ 'F' then c.toNat - 55
  else 16

/-- `char::to_digit`, up to radix 16. -/
def toDigit (radix : Nat) (c : Char) : Option Nat := if digitValue c < radix then some (digitValue c) else none

/-- The loop of `read_number`: `push count result digit` is the result after one more digit. -/
def readDigits (radix : Nat) (push : Nat → Nat → Nat → Option Nat) : Nat → Nat → List Char →
    Option ((Nat × Nat) × List Char)
  | count, result, [] => some ((count, result), [])
  | count, result, c :: s =>
    match toDigit radix c with
    | none => some ((count, result), c :: s)
    | some digit => (push (count + 1) result digit).bind fun result => readDigits radix push (count + 1) result s

/-- One round for a number of at most `maxDigits` digits. -/
def pushBounded (radix maxDigits count result digit : Nat) : Option Nat :=
  if count > maxDigits then none else some (result * radix + digit)

/-- One round with `checked_mul` and `checked_add`. -/
def pushChecked (radix limit _count result digit : Nat) : Option Nat :=
  if result * radix > limit then none
  else if result * radix + digit > limit then none
  else some (result * radix + digit)

/-- `read_number`: a number of the integer type with maximum `limit`. -/
def readNumber (radix : Nat) (maxDigits : Option Nat) (allowZeroPrefix : Bool) (limit : Nat) : Reader Nat := fun s =>
  let hasLeadingZero := s.head? = some '0'
  let push := match maxDigits with
    | some maxDigits => pushBounded radix maxDigits
    | none => pushChecked radix limit
  (readDigits radix push 0 0 s).bind fun ((count, result), rest) =>
    if count = 0 then none
    else if !allowZeroPrefix ∧ hasLeadingZero ∧ count > 1 then none
    else if result ≤ limit then some (result, rest) else none

/-! ## Addresses -/

/-- `read_separator`. -/
def readSeparator {α : Type} (separator : Char) (index : Nat) (inner : Reader α) : Reader α :=
  if index > 0 then do char separator; inner else inner

def readOctet : Reader Nat := readNumber 10 (some 3) false 255

/-- The loop of `read_ipv4_addr`, from `index` on. -/
def readOctets : Nat → Nat → Reader (List Nat)
  | 0, _ => pure []
  | n + 1, index => do
    let octet ← readSeparator '.' index readOctet
    let octets ← readOctets n (index + 1)
    pure (octet :: octets)

def readIpv4Addr : Reader (List Nat) := readOctets 4 0

/-- The two groups of an embedded IPv4 address. -/
def ipv4Groups : List Nat → List Nat
  | one :: two :: rest => (one * 256 + two) :: ipv4Groups rest
  | _ => []

def readHexGroup : Reader Nat := readNumber 16 (some 4) true 65535

/-- `read_groups`, with `n` groups left: the groups read, and whether they end in an embedded IPv4 address. -/
def readGroups : Nat → Nat → Reader (List Nat × Bool)
  | 0, _ => pure ([], false)
  | n + 1, index =>
    -- an embedded IPv4 address takes two groups
    (if n > 0 then do
      let octets ← readSeparator ':' index readIpv4Addr
      pure (ipv4Groups octets, true)
    else failure) <|>
    (do
      let group ← readSeparator ':' index readHexGroup
      let (groups, ipv4) ← readGroups n (index + 1)
      pure (group :: groups, ipv4)) <|>
    pure ([], false)

/-- What follows the head of `read_ipv6_addr`: nothing after eight groups, else `::` and the tail. -/
def readIpv6Tail (head : List Nat × Bool) : Reader (List Nat) :=
  if head.1.length = 8 then pure head.1
  else if head.2 then failure
  else do
    char ':'
    char ':'
    let (tail, _) ← readGroups (8 - (head.1.length + 1)) 0
    pure (head.1 ++ List.replicate (8 - head.1.length - tail.length) 0 ++ tail)

def readIpv6Addr : Reader (List Nat) := do
  let head ← readGroups 8 0
  readIpv6Tail head

/-- `read_ip_addr`: the octets or the groups. -/
def readIpAddr : Reader (List Nat) := readIpv4Addr <|> readIpv6Addr

def readPort : Reader Nat := do
  char ':'
  readNumber 10 none true 65535

def readScopeId : Reader Nat := do
  char '%'
  readNumber 10 none true 4294967295

def readSocketAddrV4 : Reader (List Nat × Nat) := do
  let ip ← readIpv4Addr
  let port ← readPort
  pure (ip, port)

def readSocketAddrV6 : Reader (List Nat × Nat) := do
  char '['
  let ip ← readIpv6Addr
  let _scopeId ← readScopeId <|> pure 0
  char ']'
  let port ← readPort
  pure (ip, port)

def readSocketAddr : Reader (List Nat × Nat) := readSocketAddrV4 <|> readSocketAddrV6

/-- `parse_with`: the whole text must be read. -/
def parses {α : Type} (p : Reader α) (s : List Char) : Bool :=
  match p s with
  | some (_, []) => true
  | _ => false

def isIpAddr (s : List Char) : Bool := parses readIpAddr s

def isSocketAddr (s : List Char) : Bool := parses readSocketAddr s

theorem parses_iff {α : Type} {p : Reader α} {s : List Char} : parses p s = true ↔ Whole p s := by
  unfold parses Whole
  split
  · rename_i a h
    simp [h]
  · rename_i h
    simp only [Bool.false_eq_true, false_iff]
    rintro ⟨a, ha⟩
    exact h a ha

/-! ## What the number reader reads -/

section Numbers

variable {radix : Nat} {push : Nat → Nat → Nat → Option Nat} {c : Char}

/-- A digit of the radix. -/
def IsDigit (radix : Nat) (c : Char) : Prop := (toDigit radix c).isSome = true

theorem readDigits_append (h : toDigit radix c = none) (r : List Char) : ∀ (s : List Char) (count result : Nat),
    readDigits radix push count result (s ++ c :: r) =
      (readDigits radix push count result s).map fun x => (x.1, x.2 ++ c :: r)
  | [], count, result => by simp [readDigits, h]
  | d :: s, count, result => by
    simp only [List.cons_append, readDigits]
    cases hd : toDigit radix d with
    | none => rfl
    | some digit =>
      dsimp only
      cases push (count + 1) result digit with
      | none => rfl
      | some result' => exact readDigits_append h r s (count + 1) result'

theorem readDigits_reads : ∀ {s rest : List Char} {count result : Nat} {x : Nat × Nat},
    readDigits radix push count result s = some (x, rest) →
      ∃ k, s = k ++ rest ∧ (∀ y ∈ k, IsDigit radix y) ∧ x.1 = count + k.length
  | [], rest, count, result, x, h => by
    simp only [readDigits, Option.some.injEq, Prod.mk.injEq] at h
    obtain ⟨rfl, rfl⟩ := h
    exact ⟨[], rfl, by simp, rfl⟩
  | d :: s, rest, count, result, x, h => by
    rw [readDigits] at h
    cases hd : toDigit radix d with
    | none =>
      simp only [hd, Option.some.injEq, Prod.mk.injEq] at h
      obtain ⟨rfl, rfl⟩ := h
      exact ⟨[], rfl, by simp, rfl⟩
    | some digit =>
      simp only [hd, Option.bind_eq_some_iff] at h
      obtain ⟨result', -, h⟩ := h
      obtain ⟨k, rfl, hk, hx⟩ := readDigits_reads h
      refine ⟨d :: k, rfl, ?_, ?_⟩
      · simpa [IsDigit, hd] using hk
      · rw [hx, List.length_cons]; omega

theorem readNumber_local (h : toDigit radix c = none) (maxDigits : Option Nat) (allowZeroPrefix : Bool) (limit : Nat) :
    Local c (readNumber radix maxDigits allowZeroPrefix limit) := by
  intro s r
  cases s with
  | nil => simp [readNumber, readDigits, h]
  | cons d s =>
    have happ := @readDigits_append radix (match maxDigits with
      | some maxDigits => pushBounded radix maxDigits
      | none => pushChecked radix limit) c h r (d :: s) 0 0
    rw [List.cons_append] at happ
    simp only [readNumber, List.cons_append, happ, List.head?_cons]
    cases readDigits radix _ 0 0 (d :: s) with
    | none => rfl
    | some x =>
      obtain ⟨⟨count, result⟩, rest⟩ := x
      simp only [Option.map_some, Option.bind_some]
      by_cases hcount : count = 0
      · simp [hcount]
      · by_cases hzero : (!allowZeroPrefix) = true ∧ some d = some '0' ∧ count > 1
        · simp only [hcount, hzero, if_false, and_self, if_true]
          rfl
        · simp only [hcount, hzero, if_false, apply_ite (Option.map fun x : Nat × List Char => (x.1, x.2 ++ c :: r)),
            Option.map_some, Option.map_none]

theorem readNumber_eq_some {maxDigits : Option Nat} {allowZeroPrefix : Bool} {limit n : Nat} {s rest : List Char}
    (h : readNumber radix maxDigits allowZeroPrefix limit s = some (n, rest)) :
    ∃ k, s = k ++ rest ∧ k ≠ [] ∧ ∀ y ∈ k, IsDigit radix y := by
  simp only [readNumber, Option.bind_eq_some_iff] at h
  obtain ⟨⟨⟨count, result⟩, rest'⟩, hd, h⟩ := h
  obtain ⟨k, rfl, hk, hcount⟩ := readDigits_reads hd
  simp only [Nat.zero_add] at hcount
  split at h
  · cases h
  · rename_i hne
    refine ⟨k, ?_, ?_, hk⟩
    · split at h
      · cases h
      · split at h
        · cases h; rfl
        · cases h
    · rintro rfl
      exact hne hcount

theorem readNumber_reads (maxDigits : Option Nat) (allowZeroPrefix : Bool) (limit : Nat) :
    Reads (IsDigit radix) (readNumber radix maxDigits allowZeroPrefix limit) := by
  intro s n rest h
  obtain ⟨k, hk, -, hall⟩ := readNumber_eq_some h
  exact ⟨k, hk, hall⟩

/-- The value of a text of digits. -/
def value (radix : Nat) (s : List Char) (start : Nat) : Nat :=
  s.foldl (fun n c => n * radix + (toDigit radix c).getD 0) start

theorem le_value (hr : 0 < radix) : ∀ (s : List Char) (start : Nat), start ≤ value radix s start
  | [], start => Nat.le_refl start
  | c :: s, start => by
    refine Nat.le_trans ?_ (le_value hr s _)
    calc start ≤ start * radix := Nat.le_mul_of_pos_right start hr
      _ ≤ start * radix + (toDigit radix c).getD 0 := Nat.le_add_right _ _

/-- With checked arithmetic the loop succeeds iff the value is in range. -/
theorem readDigits_checked (hr : 0 < radix) {limit : Nat} : ∀ {s : List Char} {count result : Nat},
    (∀ c ∈ s, IsDigit radix c) → readDigits radix (pushChecked radix limit) count result s =
      if value radix s result ≤ limit ∨ s = [] then some ((count + s.length, value radix s result), []) else none
  | [], count, result, _ => by simp [readDigits, value]
  | d :: s, count, result, hall => by
    obtain ⟨digit, hd⟩ := Option.isSome_iff_exists.mp (hall d List.mem_cons_self)
    have hvalue : value radix (d :: s) result = value radix s (result * radix + digit) := by simp [value, hd]
    have hle := le_value hr s (result * radix + digit)
    have ih := @readDigits_checked hr limit s (count + 1) (result * radix + digit)
      fun c hc => hall c (List.mem_cons_of_mem _ hc)
    simp only [readDigits, hd, pushChecked]
    by_cases hfits : result * radix + digit ≤ limit
    · have hmul : ¬ result * radix > limit := by omega
      have hadd : ¬ result * radix + digit > limit := by omega
      simp only [hmul, hadd, if_false, Option.bind_some, ih, hvalue, List.length_cons]
      cases s with
      | nil => simp [value, hfits]
      | cons e s => simp [Nat.add_assoc, Nat.add_comm 1]
    · have hout : ¬ value radix s (result * radix + digit) ≤ limit := by omega
      by_cases hmul : result * radix > limit
      · simp [hmul, hvalue, hout]
      · have hadd : result * radix + digit > limit := by omega
        simp [hmul, hadd, hvalue, hout]

/-- A number without a bound on its digits: digits with a value in range. -/
theorem whole_number_iff (hr : 0 < radix) {limit : Nat} {s : List Char} : Whole (readNumber radix none true limit) s ↔
    s ≠ [] ∧ (∀ c ∈ s, IsDigit radix c) ∧ value radix s 0 ≤ limit := by
  constructor
  · rintro ⟨n, h⟩
    obtain ⟨k, hk, hne, hall⟩ := readNumber_eq_some h
    rw [List.append_nil] at hk
    subst hk
    refine ⟨hne, hall, ?_⟩
    simp only [readNumber, readDigits_checked hr hall, hne, or_false] at h
    by_cases hv : value radix s 0 ≤ limit
    · exact hv
    · simp [hv] at h
  · rintro ⟨hne, hall, hv⟩
    refine ⟨value radix s 0, ?_⟩
    have hlen : s.length ≠ 0 := fun h => hne (List.length_eq_zero_iff.mp h)
    simp [readNumber, readDigits_checked hr hall, hv, hlen]

theorem isDigit_iff {x : Char} : IsDigit radix x ↔ digitValue x < radix := by
  unfold IsDigit toDigit
  split <;> simp_all

theorem IsDigit.hex {x : Char} (h : IsDigit 10 x) : IsDigit 16 x := by
  rw [isDigit_iff] at *
  omega

end Numbers

/-! ## What the address readers read -/

section Addresses

variable {α : Type} {c : Char}

def Ipv4Char (x : Char) : Prop := IsDigit 10 x ∨ x = '.'

def Ipv6Char (x : Char) : Prop := IsDigit 16 x ∨ x = '.' ∨ x = ':'

theorem Ipv4Char.ipv6 {x : Char} (h : Ipv4Char x) : Ipv6Char x := by
  rcases h with h | h
  · exact .inl h.hex
  · exact .inr (.inl h)

theorem readSeparator_local {separator : Char} (hs : c ≠ separator) (index : Nat) {inner : Reader α}
    (hi : Local c inner) : Local c (readSeparator separator index inner) := by
  unfold readSeparator
  split
  · exact (Local.char hs).bind fun _ => hi
  · exact hi

theorem readSeparator_reads {P : Char → Prop} {separator : Char} (hs : P separator) (index : Nat) {inner : Reader α}
    (hi : Reads P inner) : Reads P (readSeparator separator index inner) := by
  unfold readSeparator
  split
  · exact (Reads.char hs).bind fun _ => hi
  · exact hi

theorem readOctets_local (hc : ¬ Ipv4Char c) : ∀ n index, Local c (readOctets n index)
  | 0, _ => Local.pure []
  | n + 1, index => by
    have hdigit : toDigit 10 c = none := Option.not_isSome_iff_eq_none.mp fun h => hc (.inl h)
    refine (readSeparator_local (fun h => hc (.inr h)) index (readNumber_local hdigit _ _ _)).bind fun _ => ?_
    exact (readOctets_local hc n (index + 1)).bind fun _ => Local.pure _

theorem readOctets_reads : ∀ n index, Reads Ipv4Char (readOctets n index)
  | 0, _ => Reads.pure []
  | n + 1, index => by
    have hoctet : Reads Ipv4Char readOctet := (readNumber_reads _ _ _).mono fun _ => Or.inl
    refine (readSeparator_reads (.inr rfl) index hoctet).bind fun _ => ?_
    exact (readOctets_reads n (index + 1)).bind fun _ => Reads.pure _

theorem readOctets_length : ∀ {n index : Nat} {s rest : List Char} {octets : List Nat},
    readOctets n index s = some (octets, rest) → octets.length = n
  | 0, _, _, _, _, h => by cases h; rfl
  | n + 1, index, s, rest, octets, h => by
    obtain ⟨octet, s₁, -, h₁⟩ := bind_eq_some.mp h
    obtain ⟨octets', s₂, h₂, h₃⟩ := bind_eq_some.mp h₁
    cases h₃
    rw [List.length_cons, readOctets_length h₂]

theorem readIpv4Addr_local (hc : ¬ Ipv4Char c) : Local c readIpv4Addr := readOctets_local hc 4 0

theorem readIpv4Addr_reads : Reads Ipv4Char readIpv4Addr := readOctets_reads 4 0

theorem readGroups_local (hc : ¬ Ipv6Char c) : ∀ n index, Local c (readGroups n index)
  | 0, _ => Local.pure _
  | n + 1, index => by
    have hcolon : c ≠ ':' := fun h => hc (.inr (.inr h))
    have hdigit : toDigit 16 c = none := Option.not_isSome_iff_eq_none.mp fun h => hc (.inl h)
    have hipv4 := readIpv4Addr_local (c := c) fun h => hc h.ipv6
    refine Local.orElse ?_ (Local.orElse ?_ (Local.pure _))
    · split
      · exact (readSeparator_local hcolon index hipv4).bind fun _ => Local.pure _
      · exact Local.failure
    · refine (readSeparator_local hcolon index (readNumber_local hdigit _ _ _)).bind fun _ => ?_
      exact (readGroups_local hc n (index + 1)).bind fun _ => Local.pure _

theorem readHexGroup_reads : Reads Ipv6Char readHexGroup := (readNumber_reads _ _ _).mono fun _ => Or.inl

theorem readGroups_reads : ∀ n index, Reads Ipv6Char (readGroups n index)
  | 0, _ => Reads.pure _
  | n + 1, index => by
    have hcolon : Ipv6Char ':' := .inr (.inr rfl)
    refine Reads.orElse ?_ (Reads.orElse ?_ (Reads.pure _))
    · split
      · exact (readSeparator_reads hcolon index (readIpv4Addr_reads.mono fun _ => Ipv4Char.ipv6)).bind fun _ =>
          Reads.pure _
      · exact Reads.failure
    · refine (readSeparator_reads hcolon index readHexGroup_reads).bind fun _ => ?_
      exact (readGroups_reads n (index + 1)).bind fun _ => Reads.pure _

theorem readIpv6Addr_local (hc : ¬ Ipv6Char c) : Local c readIpv6Addr := by
  have hcolon : c ≠ ':' := fun h => hc (.inr (.inr h))
  refine (readGroups_local hc 8 0).bind fun head => ?_
  unfold readIpv6Tail
  split
  · exact Local.pure _
  · split
    · exact Local.failure
    · refine (Local.char hcolon).bind fun _ => (Local.char hcolon).bind fun _ => ?_
      exact (readGroups_local hc _ 0).bind fun _ => Local.pure _

theorem readIpv6Addr_reads : Reads Ipv6Char readIpv6Addr := by
  have hcolon : Ipv6Char ':' := .inr (.inr rfl)
  refine (readGroups_reads 8 0).bind fun head => ?_
  unfold readIpv6Tail
  split
  · exact Reads.pure _
  · split
    · exact Reads.failure
    · refine (Reads.char hcolon).bind fun _ => (Reads.char hcolon).bind fun _ => ?_
      exact (readGroups_reads _ 0).bind fun _ => Reads.pure _

/-! ## Socket addresses -/

/-- A text between brackets. -/
def bracketed (s : List Char) : List Char := '[' :: (s ++ [']'])

/-- The texts of hosts in socket addresses. -/
inductive SocketHost : List Char → Prop
  | ipv4 {h : List Char} : Whole readIpv4Addr h → SocketHost h
  | ipv6 {h : List Char} : Whole readIpv6Addr h → SocketHost (bracketed h)
  | ipv6Scoped {h scope : List Char} : Whole readIpv6Addr h → Whole (readNumber 10 none true 4294967295) scope →
      SocketHost (bracketed (h ++ '%' :: scope))

/-- The texts of ports, zero included. -/
def SocketPort (port : List Char) : Prop := Whole (readNumber 10 none true 65535) port

theorem not_ipv4Char_colon : ¬ Ipv4Char ':' := by unfold Ipv4Char IsDigit; decide

theorem not_ipv6Char_bracket : ¬ Ipv6Char ']' := by unfold Ipv6Char IsDigit; decide

theorem not_ipv6Char_percent : ¬ Ipv6Char '%' := by unfold Ipv6Char IsDigit; decide

theorem readSocketAddrV4_iff {s : List Char} : Whole readSocketAddrV4 s ↔
    ∃ h port, s = h ++ ':' :: port ∧ Whole readIpv4Addr h ∧ SocketPort port := by
  constructor
  · rintro ⟨a, h⟩
    obtain ⟨ip, mid, hip, h⟩ := bind_eq_some.mp h
    obtain ⟨port, rest, hport, h⟩ := bind_eq_some.mp h
    cases h
    obtain ⟨u, text, hcolon, hport⟩ := bind_eq_some.mp hport
    cases char_eq_some.mp hcolon
    obtain ⟨k, rfl, hk⟩ := whole_of_read (readIpv4Addr_local not_ipv4Char_colon) readIpv4Addr_reads hip
    exact ⟨k, text, rfl, hk, port, hport⟩
  · rintro ⟨h, port, rfl, hh, n, hn⟩
    obtain ⟨ip, hip⟩ := hh.read (readIpv4Addr_local not_ipv4Char_colon) port
    refine ⟨(ip, n), bind_eq_some.mpr ⟨ip, _, hip, bind_eq_some.mpr ⟨n, [], ?_, rfl⟩⟩⟩
    exact bind_eq_some.mpr ⟨(), port, char_eq_some.mpr rfl, hn⟩

/-- What follows the opening bracket, up to the closing one. -/
def readIpv6Scoped : Reader (List Nat) := do
  let ip ← readIpv6Addr
  let _scopeId ← readScopeId <|> pure 0
  pure ip

theorem not_isDigit_bracket : toDigit 10 ']' = none := by decide

theorem readScopeId_local : Local ']' readScopeId :=
  (Local.char (by decide)).bind fun _ => readNumber_local not_isDigit_bracket _ _ _

theorem readScopeId_reads : Reads (fun _ => True) readScopeId :=
  (Reads.char trivial).bind fun _ => (readNumber_reads _ _ _).mono fun _ _ => trivial

theorem readIpv6Scoped_local : Local ']' readIpv6Scoped :=
  (readIpv6Addr_local not_ipv6Char_bracket).bind fun _ =>
    (readScopeId_local.orElse (Local.pure 0)).bind fun _ => Local.pure _

theorem readIpv6Scoped_reads : Reads (fun _ => True) readIpv6Scoped :=
  (readIpv6Addr_reads.mono fun _ _ => trivial).bind fun _ =>
    (readScopeId_reads.orElse (Reads.pure 0)).bind fun _ => Reads.pure _

theorem readIpv6Scoped_iff {s : List Char} : Whole readIpv6Scoped s ↔ Whole readIpv6Addr s ∨
    ∃ h scope, s = h ++ '%' :: scope ∧ Whole readIpv6Addr h ∧ Whole (readNumber 10 none true 4294967295) scope := by
  constructor
  · rintro ⟨a, h⟩
    obtain ⟨ip, mid, hip, h⟩ := bind_eq_some.mp h
    obtain ⟨n, rest, hscope, h⟩ := bind_eq_some.mp h
    cases h
    rw [orElse_apply, Option.or_eq_some_iff] at hscope
    rcases hscope with hscope | ⟨-, hscope⟩
    · obtain ⟨u, text, hpercent, hnumber⟩ := bind_eq_some.mp hscope
      cases char_eq_some.mp hpercent
      obtain ⟨k, rfl, hk⟩ := whole_of_read (readIpv6Addr_local not_ipv6Char_percent) readIpv6Addr_reads hip
      exact .inr ⟨k, text, rfl, hk, n, hnumber⟩
    · cases hscope
      exact .inl ⟨_, hip⟩
  · rintro (⟨ip, hip⟩ | ⟨h, scope, rfl, hh, n, hn⟩)
    · exact ⟨ip, bind_eq_some.mpr ⟨ip, [], hip, rfl⟩⟩
    · obtain ⟨ip, hip⟩ := hh.read (readIpv6Addr_local not_ipv6Char_percent) scope
      refine ⟨ip, bind_eq_some.mpr ⟨ip, _, hip, bind_eq_some.mpr ⟨n, [], ?_, rfl⟩⟩⟩
      rw [orElse_apply, show readScopeId ('%' :: scope) = some (n, []) from
        bind_eq_some.mpr ⟨(), scope, char_eq_some.mpr rfl, hn⟩]
      rfl

theorem readSocketAddrV6_iff {s : List Char} : Whole readSocketAddrV6 s ↔
    ∃ h port, s = bracketed h ++ ':' :: port ∧ Whole readIpv6Scoped h ∧ SocketPort port := by
  constructor
  · rintro ⟨a, h⟩
    obtain ⟨u, s₁, hopen, h₁⟩ := bind_eq_some.mp h
    cases char_eq_some.mp hopen
    obtain ⟨ip, s₂, hip, h₂⟩ := bind_eq_some.mp h₁
    obtain ⟨n, s₃, hscope, h₃⟩ := bind_eq_some.mp h₂
    obtain ⟨u, s₄, hclose, h₄⟩ := bind_eq_some.mp h₃
    cases char_eq_some.mp hclose
    obtain ⟨port, rest, hport, h₅⟩ := bind_eq_some.mp h₄
    cases h₅
    obtain ⟨u, text, hcolon, hport⟩ := bind_eq_some.mp hport
    cases char_eq_some.mp hcolon
    have hread : readIpv6Scoped s₁ = some (ip, ']' :: ':' :: text) :=
      bind_eq_some.mpr ⟨ip, s₂, hip, bind_eq_some.mpr ⟨n, _, hscope, rfl⟩⟩
    obtain ⟨k, rfl, hk⟩ := whole_of_read readIpv6Scoped_local readIpv6Scoped_reads hread
    exact ⟨k, text, by simp [bracketed], hk, port, hport⟩
  · rintro ⟨h, port, rfl, hh, n, hn⟩
    obtain ⟨ip, hread⟩ := hh.read readIpv6Scoped_local (':' :: port)
    obtain ⟨ip', s₂, hip, hread⟩ := bind_eq_some.mp hread
    obtain ⟨scope, s₃, hscope, hread⟩ := bind_eq_some.mp hread
    cases hread
    have hport : readPort (':' :: port) = some (n, []) := bind_eq_some.mpr ⟨(), port, char_eq_some.mpr rfl, hn⟩
    refine ⟨(ip, n), bind_eq_some.mpr ⟨(), h ++ ']' :: ':' :: port, char_eq_some.mpr (by simp [bracketed]), ?_⟩⟩
    refine bind_eq_some.mpr ⟨ip, s₂, hip, bind_eq_some.mpr ⟨scope, _, hscope, ?_⟩⟩
    exact bind_eq_some.mpr ⟨(), _, char_eq_some.mpr rfl, bind_eq_some.mpr ⟨n, [], hport, rfl⟩⟩

/-- A socket address is a host and a port. -/
theorem isSocketAddr_iff {s : List Char} : isSocketAddr s = true ↔
    ∃ host port, s = host ++ ':' :: port ∧ SocketHost host ∧ SocketPort port := by
  rw [isSocketAddr, parses_iff]
  have hiff : Whole readSocketAddr s ↔ Whole readSocketAddrV4 s ∨ Whole readSocketAddrV6 s := by
    constructor
    · rintro ⟨a, h⟩
      rw [readSocketAddr, orElse_apply, Option.or_eq_some_iff] at h
      rcases h with h | ⟨-, h⟩
      · exact .inl ⟨a, h⟩
      · exact .inr ⟨a, h⟩
    · rintro (⟨a, h⟩ | ⟨a, h⟩)
      · exact ⟨a, by rw [readSocketAddr, orElse_apply, h]; rfl⟩
      · -- an opening bracket is no digit, so the first alternative fails
        obtain ⟨u, rest, hopen, -⟩ := bind_eq_some.mp h
        cases char_eq_some.mp hopen
        have hnone : readSocketAddrV4 ('[' :: rest) = none := rfl
        exact ⟨a, by rw [readSocketAddr, orElse_apply, hnone, h]; rfl⟩
  rw [hiff, readSocketAddrV4_iff, readSocketAddrV6_iff]
  constructor
  · rintro (⟨h, port, rfl, hh, hp⟩ | ⟨h, port, rfl, hh, hp⟩)
    · exact ⟨h, port, rfl, .ipv4 hh, hp⟩
    · rcases readIpv6Scoped_iff.mp hh with hh | ⟨k, scope, rfl, hk, hs⟩
      · exact ⟨bracketed h, port, rfl, .ipv6 hh, hp⟩
      · exact ⟨_, port, rfl, .ipv6Scoped hk hs, hp⟩
  · rintro ⟨host, port, rfl, hh, hp⟩
    cases hh with
    | ipv4 hh => exact .inl ⟨host, port, rfl, hh, hp⟩
    | ipv6 hh => exact .inr ⟨_, port, rfl, readIpv6Scoped_iff.mpr (.inl hh), hp⟩
    | ipv6Scoped hh hs => exact .inr ⟨_, port, rfl, readIpv6Scoped_iff.mpr (.inr ⟨_, _, rfl, hh, hs⟩), hp⟩

/-! ## IP addresses -/

/-- An IPv4 address is not allowed before `::`. -/
theorem readIpv6Addr_of_ipv4 {s : List Char} {x : List Nat × List Char} (h : readIpv4Addr s = some x) :
    readIpv6Addr s = none := by
  have h4 : x.1.length = 4 := readOctets_length h
  have hhead : readGroups 8 0 s = some ((ipv4Groups x.1, true), x.2) := by
    rw [readGroups, orElse_apply, if_pos (by decide), bind_apply, readSeparator, if_neg (by decide), h]
    rfl
  have hlen : ¬ (ipv4Groups x.1).length = 8 := by
    match x.1, h4 with
    | [one, two, three, four], _ => simp [ipv4Groups]
  rw [readIpv6Addr, bind_apply, hhead, Option.bind_some, readIpv6Tail, if_neg hlen]
  rfl

theorem isIpAddr_iff {s : List Char} : isIpAddr s = true ↔ Whole readIpv4Addr s ∨ Whole readIpv6Addr s := by
  rw [isIpAddr, parses_iff]
  constructor
  · rintro ⟨a, h⟩
    rw [readIpAddr, orElse_apply, Option.or_eq_some_iff] at h
    rcases h with h | ⟨-, h⟩
    · exact .inl ⟨a, h⟩
    · exact .inr ⟨a, h⟩
  · rintro (⟨a, h⟩ | ⟨a, h⟩)
    · exact ⟨a, by rw [readIpAddr, orElse_apply, h]; rfl⟩
    · cases h4 : readIpv4Addr s with
      | none => exact ⟨a, by rw [readIpAddr, orElse_apply, h4, h]; rfl⟩
      | some x => rw [readIpv6Addr_of_ipv4 h4] at h; cases h

/-! ## Colons -/

/-- The three ways `read_groups` ends. -/
theorem readGroups_cases {n index : Nat} {s rest : List Char} {x : List Nat × Bool}
    (h : readGroups (n + 1) index s = some (x, rest)) :
    (∃ octets, readSeparator ':' index readIpv4Addr s = some (octets, rest) ∧ x.1 = ipv4Groups octets) ∨
    (∃ group s₁ y, readSeparator ':' index readHexGroup s = some (group, s₁) ∧
      readGroups n (index + 1) s₁ = some (y, rest) ∧ x.1 = group :: y.1) ∨ x.1 = [] := by
  rw [readGroups, orElse_apply, Option.or_eq_some_iff, orElse_apply, Option.or_eq_some_iff] at h
  rcases h with h | ⟨-, h | ⟨-, h⟩⟩
  · split at h
    · obtain ⟨octets, s₁, h₁, h₂⟩ := bind_eq_some.mp h
      cases h₂
      exact .inl ⟨octets, h₁, rfl⟩
    · cases h
  · obtain ⟨group, s₁, h₁, h₂⟩ := bind_eq_some.mp h
    obtain ⟨y, s₂, h₃, h₄⟩ := bind_eq_some.mp h₂
    cases h₄
    exact .inr (.inl ⟨group, s₁, y, h₁, h₃, rfl⟩)
  · cases h
    exact .inr (.inr rfl)

theorem readSeparator_colon {index : Nat} (hi : 0 < index) {inner : Reader α} {s rest : List Char} {a : α}
    (h : readSeparator ':' index inner s = some (a, rest)) : ':' ∈ s := by
  rw [readSeparator, if_pos hi] at h
  obtain ⟨u, s₁, hcolon, -⟩ := bind_eq_some.mp h
  rw [char_eq_some.mp hcolon]
  exact List.mem_cons_self

/-- Every group but the first has a colon before it. -/
theorem readGroups_colon {n index : Nat} (hi : 0 < index) {s rest : List Char} {x : List Nat × Bool}
    (h : readGroups n index s = some (x, rest)) (hx : x.1 ≠ []) : ':' ∈ s := by
  cases n with
  | zero => cases h; exact absurd rfl hx
  | succ n =>
    rcases readGroups_cases h with ⟨octets, h₁, -⟩ | ⟨group, s₁, y, h₁, -, -⟩ | hnil
    · exact readSeparator_colon hi h₁
    · exact readSeparator_colon hi h₁
    · exact absurd hnil hx

theorem mem_of_reads {P : Char → Prop} {p : Reader α} (hr : Reads P p) {s rest : List Char} {a : α}
    (h : p s = some (a, rest)) {x : Char} (hx : x ∈ rest) : x ∈ s := by
  obtain ⟨k, rfl, -⟩ := hr s a rest h
  exact List.mem_append_right k hx

theorem colon_mem_ipv6 {s : List Char} (h : Whole readIpv6Addr s) : ':' ∈ s := by
  obtain ⟨a, h⟩ := h
  obtain ⟨head, mid, hhead, htail⟩ := bind_eq_some.mp h
  by_cases hlen : head.1.length = 8
  · rcases readGroups_cases hhead with ⟨octets, h₁, hx⟩ | ⟨group, s₁, y, h₁, h₂, hx⟩ | hx
    · -- an embedded address alone makes two groups
      have h4 : octets.length = 4 := readOctets_length h₁
      rw [hx] at hlen
      match octets, h4 with
      | [one, two, three, four], _ => simp [ipv4Groups] at hlen
    · have hy : y.1 ≠ [] := by
        rintro hnil
        rw [hx, hnil] at hlen
        simp at hlen
      exact mem_of_reads readHexGroup_reads h₁ (readGroups_colon (Nat.succ_pos 0) h₂ hy)
    · rw [hx] at hlen
      simp at hlen
  · rw [readIpv6Tail, if_neg hlen] at htail
    split at htail
    · cases htail
    · obtain ⟨u, s₁, hcolon, -⟩ := bind_eq_some.mp htail
      refine mem_of_reads (readGroups_reads 8 0) hhead ?_
      rw [char_eq_some.mp hcolon]
      exact List.mem_cons_self

end Addresses

end Net

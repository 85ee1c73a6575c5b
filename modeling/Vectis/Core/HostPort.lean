import Vectis.Core.Hosts
import Vectis.Lib.Net

/-!
# The addresses `validate_host_port` accepts

`validate_host_port` accepts what parses as a socket address, else splits at the last colon and checks the two parts. A
usable address is a host (an IPv4 address, an IPv6 address in brackets, `localhost` or a domain name), a colon and a
decimal port from 1 to 65535.

* `accepts_iff`: besides the usable addresses exactly the misread ones are accepted: port 0 or a scope id through the
  socket-address parser, an IPv6 address without brackets or a port with a plus sign through the split.
* **Usable addresses** (`validateHostPort_exact_iff`): on all other texts, acceptance is exactly the grammar, and an
accepted value is the authority of every URL built from it.
-/

namespace Vectis.Core.Validation

open Scan Net

/-- The addresses of the standard library, with `addr::parse_domain_name` a parameter. -/
def AddrLibrary.std (parseDomainName : String → Except String Unit) : AddrLibrary where
  isSocketAddr value := Net.isSocketAddr value.toList
  isIpAddr value := Net.isIpAddr value.toList
  parseDomainName := parseDomainName

/-- Characters that cannot end the authority of a URL or split it. -/
structure HostChar (c : Char) : Prop where
  noControl : isControl c = false
  noSpace : isWhitespace c = false
  inAuthority : c ∉ ['/', '?', '#', '@']

/-- Domain names are not empty and have none of the characters with a meaning in a URL. -/
structure DomainNames (parseDomainName : String → Except String Unit) : Prop where
  nonempty : ∀ name, parseDomainName name = .ok () → name.toList ≠ []
  chars : ∀ name, parseDomainName name = .ok () → ∀ c ∈ name.toList, HostChar c ∧ c ≠ ':'

/-! ## The grammar -/

/-- The value of a text of decimal digits. -/
def decimal (digits : List Char) : Nat := digits.foldl (fun n c => 10 * n + (c.toNat - 48)) 0

def IsDecimal (digits : List Char) : Prop := digits ≠ [] ∧ ∀ c ∈ digits, isAsciiDigit c = true

/-- A decimal number from 1 to 65535. -/
structure IsPort (port : List Char) : Prop where
  digits : IsDecimal port
  positive : 1 ≤ decimal port
  bounded : decimal port ≤ 65535

def IsLocalhost (host : List Char) : Prop := eqIgnoreAsciiCase (String.ofList host) "localhost" = true

section Grammar

variable (parseDomainName : String → Except String Unit)

inductive UsableHost : List Char → Prop
  | ipv4 {host : List Char} : Whole readIpv4Addr host → UsableHost host
  | ipv6 {address : List Char} : Whole readIpv6Addr address → UsableHost (bracketed address)
  | localhost {host : List Char} : IsLocalhost host → UsableHost host
  | domain {host : List Char} : parseDomainName (String.ofList host) = .ok () → UsableHost host

/-- The form `host:port`. -/
def Usable (value : String) : Prop :=
  ∃ host port, value.toList = host ++ ':' :: port ∧ UsableHost parseDomainName host ∧ IsPort port

/-- The parts of the other values the code accepts. -/
inductive MisreadParts : List Char → List Char → Prop
  | zeroPort {host port : List Char} : Whole readIpv4Addr host ∨ (∃ address, Whole readIpv6Addr address ∧
      host = bracketed address) → IsDecimal port → decimal port = 0 → MisreadParts host port
  | scopeId {address scope port : List Char} : Whole readIpv6Addr address → IsDecimal scope →
      decimal scope ≤ 4294967295 →
      IsDecimal port → decimal port ≤ 65535 → MisreadParts (bracketed (address ++ '%' :: scope)) port
  | unbracketed {host port : List Char} : Whole readIpv6Addr host → IsPort port → MisreadParts host port
  | plusSign {host port : List Char} : Whole readIpv4Addr host ∨ Whole readIpv6Addr host ∨ IsLocalhost host ∨
      parseDomainName (String.ofList host) = .ok () → IsPort port → MisreadParts host ('+' :: port)

def Misread (value : String) : Prop :=
  ∃ host port, value.toList = host ++ ':' :: port ∧ MisreadParts parseDomainName host port

end Grammar

/-! ## Authorities -/

/-- The host and port in `scheme://authority`, with the authority up to the next `/`, `?` or `#` and no user
information. -/
def urlAuthority (url : List Char) : Option (List Char × Nat) :=
  match splitOnce ':' url with
  | some (_, '/' :: '/' :: rest) =>
    let authority := rest.takeWhile fun c => c ∉ ['/', '?', '#']
    if '@' ∈ authority then none
    else (rsplitOnce ':' authority).bind fun (host, port) =>
      if port.isEmpty || !port.all isAsciiDigit then none else some (host, decimal port)
  | _ => none

/-- A value is the authority of the URLs built from it. -/
def IsAuthority (value : String) (host : List Char) (port : Nat) : Prop :=
  ∀ scheme path : List Char, ':' ∉ scheme →
    urlAuthority (scheme ++ "://".toList ++ value.toList ++ '/' :: path) = some (host, port)

/-! ## Characters -/

theorem isAsciiDigit_iff {c : Char} : isAsciiDigit c = true ↔ 48 ≤ c.toNat ∧ c.toNat ≤ 57 := by
  rw [isAsciiDigit, Bool.and_eq_true, decide_eq_true_iff, decide_eq_true_iff]
  exact Iff.rfl

theorem digitValue_eq (c : Char) : digitValue c = if 48 ≤ c.toNat ∧ c.toNat ≤ 57 then c.toNat - 48
    else if 97 ≤ c.toNat ∧ c.toNat ≤ 102 then c.toNat - 87 else if 65 ≤ c.toNat ∧
    c.toNat ≤ 70 then c.toNat - 55 else 16 := rfl

theorem isDigit_ten_iff {c : Char} : IsDigit 10 c ↔ isAsciiDigit c = true := by
  rw [isDigit_iff, isAsciiDigit_iff, digitValue_eq]
  split
  · omega
  · split
    · omega
    · split <;> omega

theorem toDigit_ten {c : Char} (h : isAsciiDigit c = true) : (toDigit 10 c).getD 0 = c.toNat - 48 := by
  have hlt := isDigit_iff.mp (isDigit_ten_iff.mpr h)
  rw [toDigit, if_pos hlt, digitValue_eq, if_pos (isAsciiDigit_iff.mp h)]
  rfl

/-- Hyphen and full stop, digits and colon, letters. -/
def InHost (c : Char) : Prop :=
  (45 ≤ c.toNat ∧ c.toNat ≤ 46) ∨ (48 ≤ c.toNat ∧ c.toNat ≤ 58) ∨ (65 ≤ c.toNat ∧ c.toNat ≤ 122)

theorem hostChar_of_range {c : Char} (h : InHost c) : HostChar c := by
  have hv : c.val.toNat = c.toNat := rfl
  unfold InHost at h
  refine ⟨?_, ?_, ?_⟩
  · simp only [isControl, Bool.or_eq_false_iff, Bool.and_eq_false_iff, decide_eq_false_iff_not, UInt32.lt_iff_toNat_lt,
      UInt32.le_iff_toNat_le, hv, UInt32.reduceToNat]
    omega
  · simp only [isWhitespace, Bool.or_eq_false_iff, Bool.and_eq_false_iff, decide_eq_false_iff_not, ← UInt32.toNat_inj,
      UInt32.le_iff_toNat_le, hv, UInt32.reduceToNat]
    omega
  · simp only [List.mem_cons, List.not_mem_nil, or_false, not_or]
    refine ⟨?_, ?_, ?_, ?_⟩ <;> rintro rfl <;> revert h <;> decide

theorem inHost_digit {c : Char} (h : isAsciiDigit c = true) : InHost c := by
  have hrange := isAsciiDigit_iff.mp h
  exact Or.inr (Or.inl ⟨hrange.1, by omega⟩)

theorem inHost_ipv6 {c : Char} (h : Ipv6Char c) : InHost c := by
  unfold InHost
  rcases h with h | rfl | rfl
  · rw [isDigit_iff, digitValue_eq] at h
    split at h
    · omega
    · split at h
      · omega
      · split at h <;> omega
  · decide
  · decide

theorem hostChar_digit {c : Char} (h : isAsciiDigit c = true) : HostChar c := hostChar_of_range (inHost_digit h)

theorem hostChar_ipv6 {c : Char} (h : Ipv6Char c) : HostChar c := hostChar_of_range (inHost_ipv6 h)

theorem localhost_letters {host : List Char} (h : IsLocalhost host) : ∀ c ∈ host, 65 ≤ c.toNat ∧ c.toNat ≤ 122 := by
  intro c hc
  have heq : Hex.lower (String.ofList host) = Hex.lower "localhost" := by simpa [IsLocalhost, eqIgnoreAsciiCase] using h
  have hmap : host.map Char.toLower = "localhost".toList := by
    have := congrArg String.toList heq
    simpa [Hex.lower] using this
  have hmem : c.toLower ∈ "localhost".toList := hmap ▸ List.mem_map_of_mem hc
  have hlow : ∀ d ∈ "localhost".toList, 97 ≤ d.toNat ∧ d.toNat ≤ 122 := by simp
  have hrange := hlow _ hmem
  unfold Char.toLower at hrange
  split at hrange
  · rename_i hupper
    have hnat : 65 ≤ c.toNat ∧ c.toNat ≤ 90 := hupper
    omega
  · omega

theorem localhost_chars {host : List Char} (h : IsLocalhost host) : ∀ c ∈ host, HostChar c ∧ c ≠ ':' := by
  intro c hc
  have hletter := localhost_letters h c hc
  refine ⟨hostChar_of_range (Or.inr (Or.inr hletter)), ?_⟩
  rintro rfl
  exact absurd hletter.1 (by decide)

/-! ## Ports -/

theorem value_eq_decimal {s : List Char} (h : ∀ c ∈ s, isAsciiDigit c = true) : value 10 s 0 = decimal s := by
  have hfold : ∀ (s : List Char) (n : Nat), (∀ c ∈ s, isAsciiDigit c = true) →
      value 10 s n = s.foldl (fun n c => 10 * n + (c.toNat - 48)) n := by
    intro s
    induction s with
    | nil => intros; rfl
    | cons c s ih =>
      intro n h
      rw [List.foldl_cons, ← ih _ fun d hd => h d (List.mem_cons_of_mem _ hd), value, List.foldl_cons,
        toDigit_ten (h c List.mem_cons_self), Nat.mul_comm]
      rfl
  exact hfold s 0 h

theorem whole_decimal_iff {limit : Nat} {s : List Char} :
    Whole (readNumber 10 none true limit) s ↔ IsDecimal s ∧ decimal s ≤ limit := by
  rw [whole_number_iff (by decide)]
  simp only [isDigit_ten_iff]
  constructor
  · rintro ⟨hne, hall, hv⟩
    exact ⟨⟨hne, hall⟩, value_eq_decimal hall ▸ hv⟩
  · rintro ⟨⟨hne, hall⟩, hv⟩
    exact ⟨hne, hall, by rw [value_eq_decimal hall]; exact hv⟩

theorem isDecimal_iff {digits : List Char} : IsDecimal digits ↔
    (digits.isEmpty || !digits.all isAsciiDigit) = false := by
  simp [IsDecimal, List.isEmpty_eq_false_iff]

theorem parseDigits_pos_iff {digits : List Char} : (∃ n, (if digits.isEmpty || !digits.all isAsciiDigit then none else
    if decimal digits < 2 ^ 16 then some (decimal digits) else none) = some (n + 1)) ↔ IsPort digits := by
  cases hd : digits.isEmpty || !digits.all isAsciiDigit with
  | true =>
    simp only [if_true, reduceCtorEq, exists_false, false_iff]
    intro h
    rw [isDecimal_iff.mp h.digits] at hd
    cases hd
  | false =>
    simp only [Bool.false_eq_true, if_false]
    by_cases hlt : decimal digits < 2 ^ 16
    · simp only [hlt, if_true, Option.some.injEq]
      constructor
      · rintro ⟨n, hn⟩
        exact ⟨isDecimal_iff.mpr hd, by omega, by omega⟩
      · intro h
        have := h.positive
        exact ⟨decimal digits - 1, by omega⟩
    · simp only [hlt, if_false, reduceCtorEq, exists_false, false_iff]
      intro h
      have := h.bounded
      omega

theorem not_isPort_plus (digits : List Char) : ¬ IsPort ('+' :: digits) := fun h =>
  absurd (h.digits.2 '+' List.mem_cons_self) (by decide)

/-- `parse::<u16>` and the check against 0 accept a port, with an optional plus sign. -/
theorem parseU16_pos_iff {port : List Char} : (∃ n, parseU16 port = some (n + 1)) ↔
    IsPort port ∨ ∃ digits, port = '+' :: digits ∧ IsPort digits := by
  by_cases hplus : ∃ digits, port = '+' :: digits
  · obtain ⟨digits, rfl⟩ := hplus
    refine parseDigits_pos_iff.trans ⟨fun h => .inr ⟨digits, rfl, h⟩, ?_⟩
    rintro (h | ⟨digits', heq, h⟩)
    · exact absurd h (not_isPort_plus digits)
    · cases heq; exact h
  · have hport : parseU16 port = if port.isEmpty || !port.all isAsciiDigit then none else
        if decimal port < 2 ^ 16 then some (decimal port) else none := by
      unfold parseU16 parseUint
      split
      · exact absurd ⟨_, rfl⟩ hplus
      · rfl
    rw [hport, parseDigits_pos_iff]
    exact ⟨.inl, fun h => h.elim id fun ⟨digits, heq, _⟩ => absurd ⟨digits, heq⟩ hplus⟩

/-! ## Hosts -/

section Hosts

variable {parseDomainName : String → Except String Unit}

/-- The hosts `validate_hostname` accepts. -/
def PlainHost (parseDomainName : String → Except String Unit) (host : List Char) : Prop :=
  Whole readIpv4Addr host ∨ Whole readIpv6Addr host ∨ IsLocalhost host ∨ parseDomainName (String.ofList host) = .ok ()

theorem ipv4_chars {host : List Char} (h : Whole readIpv4Addr host) : ∀ c ∈ host, HostChar c ∧ c ≠ ':' := by
  intro c hc
  have hchar := h.chars readIpv4Addr_reads c hc
  refine ⟨hostChar_ipv6 hchar.ipv6, ?_⟩
  rintro rfl
  exact not_ipv4Char_colon hchar

theorem ipv6_chars {host : List Char} (h : Whole readIpv6Addr host) : ∀ c ∈ host, HostChar c := fun c hc =>
  hostChar_ipv6 (h.chars readIpv6Addr_reads c hc)

theorem PlainHost.chars (law : DomainNames parseDomainName) {host : List Char} (h : PlainHost parseDomainName host) :
    ∀ c ∈ host, HostChar c := by
  rcases h with h | h | h | h
  · exact fun c hc => (ipv4_chars h c hc).1
  · exact ipv6_chars h
  · exact fun c hc => (localhost_chars h c hc).1
  · exact fun c hc => (law.chars _ h c (by simpa using hc)).1

theorem PlainHost.nonempty (law : DomainNames parseDomainName) {host : List Char} (h : PlainHost parseDomainName host) :
    host ≠ [] := by
  rintro rfl
  rcases h with ⟨a, h⟩ | ⟨a, h⟩ | h | h
  · cases h
  · cases h
  · exact absurd h (by unfold IsLocalhost; decide)
  · exact law.nonempty _ h rfl

theorem validateTextField_ok {field value : String} (hne : value.toList ≠ []) (h : ∀ c ∈ value.toList, HostChar c) :
    validateTextField field value = .ok () := by
  rw [validateTextField_ok_iff]
  constructor
  · obtain ⟨c, s, hs⟩ := List.exists_cons_of_ne_nil hne
    have hc := (h c (by rw [hs]; exact List.mem_cons_self)).noSpace
    simp [hs, hc]
  · rw [List.any_eq_false]
    intro c hc
    rw [(h c hc).noControl]
    exact Bool.false_ne_true

theorem validateHostname_ok_iff (law : DomainNames parseDomainName) (field : String) (host : List Char) :
    validateHostname (.std parseDomainName) field (String.ofList host) = .ok () ↔ PlainHost parseDomainName host := by
  have hip : (AddrLibrary.std parseDomainName).isIpAddr (String.ofList host) = true ↔
      Whole readIpv4Addr host ∨ Whole readIpv6Addr host := by
    rw [← isIpAddr_iff]
    simp [AddrLibrary.std]
  rw [validateHostname, Loop.bind_unit_eq_ok]
  constructor
  · rintro ⟨-, h⟩
    split at h
    · rename_i hor
      rcases (Bool.or_eq_true _ _).mp hor with hl | hi
      · exact .inr (.inr (.inl hl))
      · rcases hip.mp hi with hi | hi
        · exact .inl hi
        · exact .inr (.inl hi)
    · split at h
      · rename_i hd
        exact .inr (.inr (.inr hd))
      · cases h
  · intro h
    refine ⟨validateTextField_ok (by simpa using h.nonempty law) (by simpa using h.chars law), ?_⟩
    split
    · rfl
    · rename_i hor
      rw [Bool.or_eq_true, not_or] at hor
      rcases h with h | h | h | h
      · exact absurd (hip.mpr (.inl h)) hor.2
      · exact absurd (hip.mpr (.inr h)) hor.2
      · exact absurd h hor.1
      · have hname : (AddrLibrary.std parseDomainName).parseDomainName (String.ofList host) = .ok () := h
        simp only [hname]

/-! ## Acceptance -/

theorem rsplitOnce_some {delimiter : Char} {text host port : List Char} :
    rsplitOnce delimiter text = some (host, port) ↔ text = host ++ delimiter :: port ∧ delimiter ∉ port := by
  rw [rsplitOnce, Option.map_eq_some_iff]
  constructor
  · rintro ⟨⟨a, b⟩, h, heq⟩
    obtain ⟨htext, hnot⟩ := splitOnce_some.mp h
    cases heq
    refine ⟨?_, by simpa using hnot⟩
    rw [← List.reverse_reverse text, htext]
    simp
  · rintro ⟨rfl, hnot⟩
    exact ⟨(port.reverse, host.reverse), splitOnce_some.mpr ⟨by simp, by simpa using hnot⟩, by simp⟩

/-- The parts of a value are those at its last colon. -/
theorem parts_unique {value host port host' port' : List Char} (h : value = host ++ ':' :: port) (hp : ':' ∉ port)
    (h' : value = host' ++ ':' :: port') (hp' : ':' ∉ port') : host = host' ∧ port = port' := by
  have heq := (rsplitOnce_some.mpr ⟨h, hp⟩).symm.trans (rsplitOnce_some.mpr ⟨h', hp'⟩)
  exact Prod.mk.inj (Option.some.inj heq)

theorem IsDecimal.colon {digits : List Char} (h : IsDecimal digits) : ':' ∉ digits := fun hmem =>
  absurd (h.2 ':' hmem) (by decide)

theorem IsPort.plus_colon {digits : List Char} (h : IsPort digits) : ':' ∉ '+' :: digits := by
  rw [List.mem_cons, not_or]
  exact ⟨by decide, h.digits.colon⟩

/-- The text check passes on a host, a colon and a port. -/
theorem text_ok {field value : String} {host port : List Char} (hvalue : value.toList = host ++ ':' :: port)
    (hhost : ∀ c ∈ host, isControl c = false) (hport : ∀ c ∈ port, isControl c = false) :
    validateTextField field value = .ok () := by
  rw [validateTextField_ok_iff, hvalue]
  refine ⟨?_, ?_⟩
  · rw [List.all_eq_false]
    exact ⟨':', by simp, by decide⟩
  · rw [List.any_eq_false]
    intro c hc
    rcases List.mem_append.mp hc with hc | hc
    · rw [hhost c hc]; exact Bool.false_ne_true
    · rcases List.mem_cons.mp hc with rfl | hc
      · decide
      · rw [hport c hc]; exact Bool.false_ne_true

theorem IsDecimal.control {digits : List Char} (h : IsDecimal digits) : ∀ c ∈ digits, isControl c = false := fun c hc =>
  (hostChar_digit (h.2 c hc)).noControl

theorem socketHost_control {host : List Char} (h : SocketHost host) : ∀ c ∈ host, isControl c = false := by
  have hbracket : ∀ s : List Char, (∀ c ∈ s, isControl c = false) → ∀ c ∈ bracketed s, isControl c = false := by
    intro s hs c hc
    rcases List.mem_cons.mp hc with rfl | hc
    · decide
    · rcases List.mem_append.mp hc with hc | hc
      · exact hs c hc
      · rw [List.mem_singleton.mp hc]; decide
  cases h with
  | ipv4 h => exact fun c hc => (ipv4_chars h c hc).1.noControl
  | ipv6 h => exact hbracket _ fun c hc => (ipv6_chars h c hc).noControl
  | ipv6Scoped h hscope =>
    refine hbracket _ fun c hc => ?_
    rcases List.mem_append.mp hc with hc | hc
    · exact (ipv6_chars h c hc).noControl
    · rcases List.mem_cons.mp hc with rfl | hc
      · decide
      · exact (whole_decimal_iff.mp hscope).1.control c hc

def Accepts (parseDomainName : String → Except String Unit) (field value : String) : Prop :=
  ∃ v, validateHostPort (.std parseDomainName) field value = .ok v

theorem accepts_of_socket {field value : String} {host port : List Char} (hvalue : value.toList = host ++ ':' :: port)
    (hhost : SocketHost host) (hport : IsDecimal port) (hle : decimal port ≤ 65535) :
    Accepts parseDomainName field value := by
  have hsocket : (AddrLibrary.std parseDomainName).isSocketAddr value = true :=
    isSocketAddr_iff.mpr ⟨host, port, hvalue, hhost, whole_decimal_iff.mpr ⟨hport, hle⟩⟩
  refine ⟨value, ?_⟩
  rw [validateHostPort, text_ok hvalue (socketHost_control hhost) hport.control]
  simp [bind, Except.bind, hsocket]

theorem accepts_of_split (law : DomainNames parseDomainName) {field value : String} {host port : List Char}
    (hvalue : value.toList = host ++ ':' :: port) (hhost : PlainHost parseDomainName host)
    (hport : IsPort port ∨ ∃ digits, port = '+' :: digits ∧ IsPort digits) : Accepts parseDomainName field value := by
  have hcolon : ':' ∉ port := by
    rcases hport with h | ⟨digits, rfl, h⟩
    · exact h.digits.colon
    · exact h.plus_colon
  have hcontrol : ∀ c ∈ port, isControl c = false := by
    rcases hport with h | ⟨digits, rfl, h⟩
    · exact h.digits.control
    · intro c hc
      rcases List.mem_cons.mp hc with rfl | hc
      · decide
      · exact h.digits.control c hc
  obtain ⟨n, hn⟩ := parseU16_pos_iff.mpr hport
  refine ⟨value, ?_⟩
  rw [validateHostPort, text_ok hvalue (fun c hc => (hhost.chars law c hc).noControl) hcontrol]
  simp only [bind, Except.bind]
  split
  · rfl
  · rw [rsplitOnce_some.mpr ⟨hvalue, hcolon⟩]
    simp only [(validateHostname_ok_iff law _ host).mpr hhost, hn]

/-- What is accepted is usable or misread. -/
theorem accepts_iff (law : DomainNames parseDomainName) (field value : String) :
    Accepts parseDomainName field value ↔ Usable parseDomainName value ∨ Misread parseDomainName value := by
  constructor
  · rintro ⟨v, h⟩
    rw [validateHostPort, Loop.bind_unit_eq_ok] at h
    obtain ⟨-, h⟩ := h
    split at h
    · rename_i hsocket
      obtain ⟨host, port, hvalue, hhost, hport⟩ := isSocketAddr_iff.mp hsocket
      obtain ⟨hdec, hle⟩ := whole_decimal_iff.mp hport
      by_cases hzero : decimal port = 0
      · cases hhost with
        | ipv4 h => exact .inr ⟨_, port, hvalue, .zeroPort (.inl h) hdec hzero⟩
        | ipv6 h => exact .inr ⟨_, port, hvalue, .zeroPort (.inr ⟨_, h, rfl⟩) hdec hzero⟩
        | ipv6Scoped h hscope =>
          obtain ⟨hs, hb⟩ := whole_decimal_iff.mp hscope
          exact .inr ⟨_, port, hvalue, .scopeId h hs hb hdec hle⟩
      · have hport : IsPort port := ⟨hdec, by omega, hle⟩
        cases hhost with
        | ipv4 h => exact .inl ⟨_, port, hvalue, .ipv4 h, hport⟩
        | ipv6 h => exact .inl ⟨_, port, hvalue, .ipv6 h, hport⟩
        | ipv6Scoped h hscope =>
          obtain ⟨hs, hb⟩ := whole_decimal_iff.mp hscope
          exact .inr ⟨_, port, hvalue, .scopeId h hs hb hdec hle⟩
    · split at h
      · cases h
      · rename_i host port hsplit
        obtain ⟨hvalue, -⟩ := rsplitOnce_some.mp hsplit
        rw [Loop.bind_unit_eq_ok, validateHostname_ok_iff law] at h
        obtain ⟨hhost, h⟩ := h
        have hport : ∃ n, parseU16 port = some (n + 1) := by
          split at h
          · cases h
          · cases h
          · rename_i n hne hn
            exact ⟨n - 1, by rw [hn, Nat.sub_add_cancel (Nat.pos_of_ne_zero hne)]⟩
        rcases parseU16_pos_iff.mp hport with hport | ⟨digits, rfl, hdigits⟩
        · rcases hhost with h | h | h | h
          · exact .inl ⟨host, port, hvalue, .ipv4 h, hport⟩
          · exact .inr ⟨host, port, hvalue, .unbracketed h hport⟩
          · exact .inl ⟨host, port, hvalue, .localhost h, hport⟩
          · exact .inl ⟨host, port, hvalue, .domain h, hport⟩
        · exact .inr ⟨host, _, hvalue, .plusSign hhost hdigits⟩
  · rintro (⟨host, port, hvalue, hhost, hport⟩ | ⟨host, port, hvalue, hparts⟩)
    · cases hhost with
      | ipv4 h => exact accepts_of_split law hvalue (.inl h) (.inl hport)
      | ipv6 h => exact accepts_of_socket hvalue (.ipv6 h) hport.digits hport.bounded
      | localhost h => exact accepts_of_split law hvalue (.inr (.inr (.inl h))) (.inl hport)
      | domain h => exact accepts_of_split law hvalue (.inr (.inr (.inr h))) (.inl hport)
    · cases hparts with
      | zeroPort h hdec hzero =>
        rcases h with h | ⟨address, h, rfl⟩
        · exact accepts_of_socket hvalue (.ipv4 h) hdec (by omega)
        · exact accepts_of_socket hvalue (.ipv6 h) hdec (by omega)
      | scopeId h hs hb hdec hle =>
        exact accepts_of_socket hvalue (.ipv6Scoped h (whole_decimal_iff.mpr ⟨hs, hb⟩)) hdec hle
      | unbracketed h hport => exact accepts_of_split law hvalue (.inr (.inl h)) (.inl hport)
      | plusSign h hport => exact accepts_of_split law hvalue h (.inr ⟨_, rfl, hport⟩)

/-! ## Accepted values in associated data -/

/-- Domain names have none of the delimiters of associated data. -/
def Undelimited (parseDomainName : String → Except String Unit) : Prop :=
  ∀ name, parseDomainName name = .ok () → ∀ c ∈ name.toList, c ≠ ';' ∧ c ≠ '='

theorem InHost.undelimited {c : Char} (h : InHost c) : c ≠ ';' ∧ c ≠ '=' := by
  constructor <;> rintro rfl <;> revert h <;> unfold InHost <;> decide

theorem PlainHost.undelimited (hnames : Undelimited parseDomainName) {host : List Char}
    (h : PlainHost parseDomainName host) :
    ∀ c ∈ host, c ≠ ';' ∧ c ≠ '=' := by
  intro c hc
  rcases h with h | h | h | h
  · exact (inHost_ipv6 (h.chars readIpv4Addr_reads c hc).ipv6).undelimited
  · exact (inHost_ipv6 (h.chars readIpv6Addr_reads c hc)).undelimited
  · exact InHost.undelimited (Or.inr (Or.inr (localhost_letters h c hc)))
  · exact hnames _ h c (by simpa using hc)

theorem IsDecimal.undelimited {digits : List Char} (h : IsDecimal digits) : ∀ c ∈ digits, c ≠ ';' ∧ c ≠ '=' :=
  fun c hc =>
  (inHost_digit (h.2 c hc)).undelimited

theorem bracketed_undelimited {text : List Char} (h : ∀ c ∈ text, c ≠ ';' ∧ c ≠ '=') :
    ∀ c ∈ bracketed text, c ≠ ';' ∧ c ≠ '=' := by
  intro c hc
  rcases List.mem_cons.mp hc with rfl | hc
  · decide
  · rcases List.mem_append.mp hc with hc | hc
    · exact h c hc
    · rw [List.mem_singleton.mp hc]
      decide

theorem append_undelimited {host port : List Char} {c : Char} (hc : c ≠ ';' ∧ c ≠ '=') (hhost : ∀ c ∈ host, c ≠ ';' ∧
    c ≠ '=') (hport : ∀ c ∈ port, c ≠ ';' ∧ c ≠ '=') : ∀ d ∈ host ++ c :: port, d ≠ ';' ∧ d ≠ '=' := by
  intro d hd
  rcases List.mem_append.mp hd with hd | hd
  · exact hhost d hd
  · rcases List.mem_cons.mp hd with rfl | hd
    · exact hc
    · exact hport d hd

/-- An accepted value can be a value of associated data. -/
theorem Accepts.undelimited (law : DomainNames parseDomainName) (hnames : Undelimited parseDomainName)
    {field value : String} (h : Accepts parseDomainName field value) : ∀ c ∈ value.toList, c ≠ ';' ∧ c ≠ '=' := by
  have hipv6 : ∀ {address : List Char}, Whole readIpv6Addr address → ∀ c ∈ address, c ≠ ';' ∧ c ≠ '=' := fun haddress =>
    PlainHost.undelimited hnames (Or.inr (Or.inl haddress))
  have hcolon : ':' ≠ ';' ∧ ':' ≠ '=' := by decide
  rcases (accepts_iff law field value).mp h with ⟨host, port, hvalue, hhost, hport⟩ | ⟨host, port, hvalue, hparts⟩
  · rw [hvalue]
    refine append_undelimited hcolon ?_ hport.digits.undelimited
    cases hhost with
    | ipv4 hhost => exact PlainHost.undelimited hnames (Or.inl hhost)
    | ipv6 hhost => exact bracketed_undelimited (hipv6 hhost)
    | localhost hhost => exact PlainHost.undelimited hnames (Or.inr (Or.inr (Or.inl hhost)))
    | domain hhost => exact PlainHost.undelimited hnames (Or.inr (Or.inr (Or.inr hhost)))
  · rw [hvalue]
    cases hparts with
    | zeroPort hhost hport hzero =>
      refine append_undelimited hcolon ?_ hport.undelimited
      rcases hhost with hhost | ⟨address, hhost, rfl⟩
      · exact PlainHost.undelimited hnames (Or.inl hhost)
      · exact bracketed_undelimited (hipv6 hhost)
    | scopeId hhost hscope hle hport hbound =>
      refine append_undelimited hcolon (bracketed_undelimited ?_) hport.undelimited
      exact append_undelimited (by decide) (hipv6 hhost) hscope.undelimited
    | unbracketed hhost hport => exact append_undelimited hcolon (hipv6 hhost) hport.digits.undelimited
    | plusSign hhost hport =>
      refine append_undelimited hcolon (PlainHost.undelimited hnames hhost) fun c hc => ?_
      rcases List.mem_cons.mp hc with rfl | hc
      · decide
      · exact hport.digits.undelimited c hc

/-! ## Usable values are not misread -/

theorem bracketed_injective {s t : List Char} (h : bracketed s = bracketed t) : s = t := by
  simpa [bracketed] using h

/-- Only in brackets a usable host has a colon. -/
theorem UsableHost.colon (law : DomainNames parseDomainName) {host : List Char} (h : UsableHost parseDomainName host)
    (hmem : ':' ∈ host) : ∃ address, Whole readIpv6Addr address ∧ host = bracketed address := by
  cases h with
  | ipv4 h => exact absurd rfl (ipv4_chars h _ hmem).2
  | ipv6 h => exact ⟨_, h, rfl⟩
  | localhost h => exact absurd rfl (localhost_chars h _ hmem).2
  | domain h => exact absurd rfl (law.chars _ h ':' (by simpa using hmem)).2

theorem bracket_not_mem_ipv6 {host : List Char} (h : Whole readIpv6Addr host) : ']' ∉ host := fun hmem =>
  not_ipv6Char_bracket (h.chars readIpv6Addr_reads _ hmem)

theorem MisreadParts.colon {host port : List Char} (h : MisreadParts parseDomainName host port) : ':' ∉ port := by
  cases h with
  | zeroPort _ hdec => exact hdec.colon
  | scopeId _ _ _ hdec => exact hdec.colon
  | unbracketed _ hport => exact hport.digits.colon
  | plusSign _ hport => exact hport.plus_colon

theorem Misread.not_usable (law : DomainNames parseDomainName) {value : String} (hm : Misread parseDomainName value) :
    ¬ Usable parseDomainName value := by
  rintro ⟨host, port, hvalue, hhost, hport⟩
  obtain ⟨host', port', hvalue', hparts⟩ := hm
  obtain ⟨rfl, rfl⟩ := parts_unique hvalue hport.digits.colon hvalue' hparts.colon
  cases hparts with
  | zeroPort _ _ hzero =>
    have := hport.positive
    omega
  | @scopeId address scope _ h =>
    have hmem : ':' ∈ bracketed (address ++ '%' :: scope) := by simp [bracketed, colon_mem_ipv6 h]
    obtain ⟨address', h', heq⟩ := hhost.colon law hmem
    rw [← bracketed_injective heq] at h'
    exact not_ipv6Char_percent (h'.chars readIpv6Addr_reads '%' (by simp))
  | unbracketed h =>
    obtain ⟨address, h', rfl⟩ := hhost.colon law (colon_mem_ipv6 h)
    exact bracket_not_mem_ipv6 h (by simp [bracketed])
  | plusSign => exact not_isPort_plus _ hport

/-! ## Authorities of usable values -/

theorem UsableHost.inAuthority (law : DomainNames parseDomainName) {host : List Char}
    (h : UsableHost parseDomainName host) : ∀ c ∈ host, c ∉ ['/', '?', '#', '@'] := by
  cases h with
  | ipv4 h => exact fun c hc => (ipv4_chars h c hc).1.inAuthority
  | ipv6 h =>
    intro c hc
    rcases List.mem_cons.mp hc with rfl | hc
    · decide
    · rcases List.mem_append.mp hc with hc | hc
      · exact (ipv6_chars h c hc).inAuthority
      · rw [List.mem_singleton.mp hc]; decide
  | localhost h => exact fun c hc => (localhost_chars h c hc).1.inAuthority
  | domain h => exact fun c hc => (law.chars _ h c (by simpa using hc)).1.inAuthority

/-- A usable value is the authority of every URL built from it. -/
theorem isAuthority_of_usable (law : DomainNames parseDomainName) {value : String} {host port : List Char}
    (hvalue : value.toList = host ++ ':' :: port) (hhost : UsableHost parseDomainName host) (hport : IsPort port) :
    IsAuthority value host (decimal port) := by
  intro scheme path hscheme
  have hchars : ∀ c ∈ value.toList, c ∉ ['/', '?', '#', '@'] := by
    rw [hvalue]
    intro c hc
    rcases List.mem_append.mp hc with hc | hc
    · exact hhost.inAuthority law c hc
    · rcases List.mem_cons.mp hc with rfl | hc
      · decide
      · exact (hostChar_digit (hport.digits.2 c hc)).inAuthority
  have hsplit : splitOnce ':' (scheme ++ "://".toList ++ value.toList ++ '/' :: path) =
      some (scheme, '/' :: '/' :: (value.toList ++ '/' :: path)) :=
    splitOnce_some.mpr ⟨by simp, hscheme⟩
  have htake : (value.toList ++ '/' :: path).takeWhile (fun c => c ∉ ['/', '?', '#']) = value.toList := by
    rw [List.takeWhile_append_of_pos]
    · simp
    · intro c hc
      have := hchars c hc
      simp only [List.mem_cons, List.not_mem_nil, or_false, not_or] at this
      simp [this]
  have hat : '@' ∉ value.toList := fun h => hchars '@' h (by simp)
  unfold urlAuthority
  simp only [hsplit, htake, hat, if_false]
  rw [rsplitOnce_some.mpr ⟨hvalue, hport.digits.colon⟩, Option.bind_some]
  simp only [isDecimal_iff.mp hport.digits, Bool.false_eq_true, if_false]

/-! ## Exactness -/

/-- **Usable addresses**: acceptance is exactly the grammar, with the authority and the port it names, on every value
but the misread ones. -/
theorem validateHostPort_exact_iff (law : DomainNames parseDomainName) (field value : String) :
    (((∃ v, validateHostPort (.std parseDomainName) field value = .ok v) ↔ Usable parseDomainName value) ∧
      ((∃ v, validateHostPort (.std parseDomainName) field value = .ok v) →
        ∃ host port, value.toList = host ++ ':' :: port ∧ UsableHost parseDomainName host ∧ 0 < decimal port ∧
          IsAuthority value host (decimal port))) ↔ ¬ Misread parseDomainName value := by
  have hiff := accepts_iff law field value
  constructor
  · rintro ⟨hexact, -⟩ hm
    exact hm.not_usable law (hexact.mp (hiff.mpr (.inr hm)))
  · intro hm
    have hexact : Accepts parseDomainName field value ↔ Usable parseDomainName value := by
      rw [hiff]
      exact ⟨fun h => h.resolve_right hm, .inl⟩
    refine ⟨hexact, fun haccepted => ?_⟩
    obtain ⟨host, port, hvalue, hhost, hport⟩ := hexact.mp haccepted
    exact ⟨host, port, hvalue, hhost, hport.positive, isAuthority_of_usable law hvalue hhost hport⟩

end Hosts

/-- A library that knows one domain name. -/
def exampleDomain (name : String) : Except String Unit :=
  if name = "vectis.example.com" then .ok () else .error "invalid domain name"

theorem exampleDomain_names : DomainNames exampleDomain := by
  have hname : ∀ name, exampleDomain name = .ok () → name = "vectis.example.com" := by
    intro name h
    unfold exampleDomain at h
    split at h
    · assumption
    · cases h
  constructor
  · intro name h
    rw [hname name h]
    decide
  · intro name h c hc
    rw [hname name h] at hc
    have hrange : ∀ c ∈ "vectis.example.com".toList, c.toNat = 46 ∨ (97 ≤ c.toNat ∧ c.toNat ≤ 122) := by simp
    have := hrange c hc
    refine ⟨hostChar_of_range (by unfold InHost; omega), ?_⟩
    rintro rfl
    exact absurd this (by decide)

theorem isPort_3000 : IsPort "3000".toList := by
  have hvalue : decimal "3000".toList = 3000 := rfl
  exact ⟨⟨by decide, by simp [isAsciiDigit]⟩, by rw [hvalue]; omega, by rw [hvalue]; omega⟩

theorem vectis_example_exact : ¬ Misread exampleDomain "vectis.example.com:3000" ∧
    Usable exampleDomain "vectis.example.com:3000" ∧
    ∃ v, validateHostPort (.std exampleDomain) "addr" "vectis.example.com:3000" = .ok v := by
  have husable : Usable exampleDomain "vectis.example.com:3000" :=
    ⟨"vectis.example.com".toList, "3000".toList, by decide, .domain (by simp [exampleDomain]), isPort_3000⟩
  have hm : ¬ Misread exampleDomain "vectis.example.com:3000" := fun hm => hm.not_usable exampleDomain_names husable
  exact ⟨hm, husable, (((validateHostPort_exact_iff exampleDomain_names "addr" _).mpr hm).1).mpr husable⟩

/-- Port 0 passes the socket-address parser, which has no check for it. -/
theorem validateHostPort_zero_port : ¬ ((∃ v, validateHostPort (.std exampleDomain) "addr" "127.0.0.1:0" = .ok v) ↔
    Usable exampleDomain "127.0.0.1:0") := by
  have hip : Whole readIpv4Addr ['1', '2', '7', '.', '0', '.', '0', '.', '1'] := ⟨[127, 0, 0, 1], rfl⟩
  have hm : Misread exampleDomain "127.0.0.1:0" :=
    ⟨_, ['0'], by decide, .zeroPort (.inl hip) ⟨by decide, by simp [isAsciiDigit]⟩ (by decide)⟩
  intro h
  exact hm.not_usable exampleDomain_names (h.mp ((accepts_iff exampleDomain_names "addr" _).mpr (.inr hm)))

end Vectis.Core.Validation

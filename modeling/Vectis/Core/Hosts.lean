import Vectis.Core.Labels

/-!
# Hosts

Addresses of the form `host:port` (`core/validation.rs`). The parsers of socket addresses, of IP addresses and of domain
names are a parameter.
-/

namespace Vectis.Core.Validation

/-- `str::parse::<SocketAddr>`, `str::parse::<IpAddr>` and `addr::parse_domain_name`, which gives the text of its
error. -/
structure AddrLibrary where
  isSocketAddr : String → Bool
  isIpAddr : String → Bool
  parseDomainName : String → Except String Unit

/-- `str::eq_ignore_ascii_case`. -/
def eqIgnoreAsciiCase (a b : String) : Bool := Hex.lower a = Hex.lower b

def validateHostname (addr : AddrLibrary) (field value : String) : Res Unit := do
  validateTextField field value
  if eqIgnoreAsciiCase value "localhost" || addr.isIpAddr value then .ok ()
  else
    match addr.parseDomainName value with
    | .ok () => .ok ()
    | .error err => .error (.invalidInput (field ++ " must be a valid hostname or IP address: " ++ err))

/-- `str::rsplit_once`. -/
def rsplitOnce (delimiter : Char) (text : List Char) : Option (List Char × List Char) :=
  (splitOnce delimiter text.reverse).map fun parts => (parts.2.reverse, parts.1.reverse)

/-- `str::parse` of an unsigned integer of some bits: digits after an optional plus sign. -/
def parseUint (bits : Nat) (text : List Char) : Option Nat :=
  let digits := match text with
    | '+' :: rest => rest
    | _ => text
  if digits.isEmpty || !digits.all isAsciiDigit then none
  else
    let value := digits.foldl (fun n c => 10 * n + (c.toNat - 48)) 0
    if value < 2 ^ bits then some value else none

def parseU16 (text : List Char) : Option Nat := parseUint 16 text

/-- The text of `ParseIntError`; digits that overflow are noticed before a character after them. -/
def parseU16Error (text : List Char) : String :=
  let digits := match text with
    | '+' :: rest => rest
    | _ => text
  if text.isEmpty then "cannot parse integer from empty string"
  else if 2 ^ 16 ≤ (digits.takeWhile isAsciiDigit).foldl (fun n c => 10 * n + (c.toNat - 48)) 0 then
    "number too large to fit in target type"
  else "invalid digit found in string"

def validateHostPort (addr : AddrLibrary) (field value : String) : Res String := do
  validateTextField field value
  if addr.isSocketAddr value then .ok value
  else
    match rsplitOnce ':' value.toList with
    | none => .error (.invalidInput (field ++ " must be a valid host:port value"))
    | some (host, port) => do
      validateHostname addr (field ++ ".host") (String.ofList host)
      match parseU16 port with
      | none => .error (.invalidInput (field ++ ".port must be a valid TCP port: " ++ parseU16Error port))
      | some 0 => .error (.invalidInput (field ++ ".port must be greater than 0"))
      | some _ => .ok value

end Vectis.Core.Validation
